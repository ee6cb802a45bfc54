import FrameExchange.Proofs.Memory
import FrameExchange.Writer

/-!
# Headers of published frames

What a header says after a frame or an empty frame was published into it, and that whoever accepts
a frame writes a header that every reader trusts.

- `Frame.check_eq_ok_iff` — the frames that are accepted, layer by layer.
- `Header.layers_publish` — the layers come out as they went in.
- `Header.validate_publish`, `Header.validate_publishEmpty` — published headers can be trusted.
- `Header.slotOf_succ_ne` — two frames in a row never share a slot, also where the number wraps.
-/

namespace FrameExchange

/-! ## Accepted frames -/

/-- A size has pixels when neither dimension is zero. -/
theorem PixelSize.isEmpty_eq_false_iff (s : PixelSize) :
    s.isEmpty = false ↔ s.width ≠ 0 ∧ s.height ≠ 0 := by
  rw [isEmpty, Bool.or_eq_false_iff, beq_eq_false_iff_ne, beq_eq_false_iff_ne]

/-- Two steps that can fail come to a value when both do. -/
theorem bind_eq_ok_iff {ε α β : Type} {first : Except ε α} {next : α → Except ε β} {b : β} :
    (first >>= next) = .ok b ↔ ∃ a, first = .ok a ∧ next a = .ok b := by
  cases first with
  | error e => simp [bind, Except.bind]
  | ok a => simp [bind, Except.bind]

/-- A check of every element passes when it passes for each. -/
theorem forM_eq_ok_iff {ε α : Type} (check : α → Except ε Unit) (l : List α) :
    l.forM check = .ok () ↔ ∀ a ∈ l, check a = .ok () := by
  induction l with
  | nil => exact ⟨fun _ _ h => absurd h List.not_mem_nil, fun _ => rfl⟩
  | cons a rest ih =>
    rw [show (a :: rest).forM check = (check a >>= fun _ => rest.forM check) from rfl,
      bind_eq_ok_iff, List.forall_mem_cons, ← ih]
    exact ⟨fun ⟨_, hfirst, hrest⟩ => ⟨hfirst, hrest⟩, fun ⟨hfirst, hrest⟩ => ⟨(), hfirst, hrest⟩⟩

namespace Frame

/-- A layer is accepted when its rectangle is not empty and lies inside the texture. -/
theorem checkLayer_eq_ok_iff (texture : PixelSize) (layer : Layer) :
    checkLayer texture layer = .ok () ↔
      layer.rect.size.isEmpty = false ∧ layer.rect.fitsWithin texture = true := by
  rw [checkLayer]
  cases hempty : layer.rect.size.isEmpty with
  | true => simp
  | false =>
    cases hfits : layer.rect.fitsWithin texture with
    | true => simp
    | false => simp

/-- A frame is accepted when it has at most as many layers as a header can hold, none of them on
an empty texture, and every layer is accepted. -/
theorem check_eq_ok_iff (f : Frame) : f.check = .ok () ↔
    f.layers.length ≤ maxLayers ∧ (f.layers = [] ∨ f.config.textureSize.isEmpty = false) ∧
      ∀ layer ∈ f.layers, layer.rect.size.isEmpty = false ∧
        layer.rect.fitsWithin f.config.textureSize = true := by
  rw [check]
  by_cases hmany : maxLayers < f.layers.length
  · rw [if_pos hmany]
    refine ⟨fun h => (by cases h), fun h => absurd h.1 (Nat.not_le.mpr hmany)⟩
  · rw [if_neg hmany]
    by_cases hempty : (!f.layers.isEmpty && f.config.textureSize.isEmpty) = true
    · rw [if_pos hempty]
      rw [Bool.and_eq_true, Bool.not_eq_true', List.isEmpty_eq_false_iff] at hempty
      refine ⟨fun h => (by cases h), fun h => ?_⟩
      rcases h.2.1 with hnil | hsize
      · exact absurd hnil hempty.1
      · rw [hsize] at hempty
        exact absurd hempty.2 (by decide)
    · rw [if_neg hempty, forM_eq_ok_iff]
      have hsize : f.layers = [] ∨ f.config.textureSize.isEmpty = false := by
        rw [Bool.and_eq_true, Bool.not_eq_true', List.isEmpty_eq_false_iff, not_and,
          Bool.not_eq_true] at hempty
        by_cases hnil : f.layers = []
        · exact .inl hnil
        · exact .inr (hempty hnil)
      simp only [checkLayer_eq_ok_iff]
      exact ⟨fun h => ⟨Nat.not_lt.mp hmany, hsize, h⟩, fun h => h.2.2⟩

end Frame

namespace Header

/-! ## Slots -/

/-- The next frame never uses the slot of the current one, also where the number wraps around. -/
theorem slotOf_succ_ne (n : UInt64) : slotOf (n + 1) ≠ slotOf n := by
  intro h
  -- the bound at which numbers wrap is even, so parity changes there too
  have hval : (n + 1).toNat % 2 = n.toNat % 2 := congrArg Fin.val h
  rw [UInt64.toNat_add] at hval
  have hone : (1 : UInt64).toNat = 1 := rfl
  omega

/-! ## Layers -/

/-- The table of some layers begins with them. -/
theorem take_tableOf (layers : List Layer) (hlen : layers.length ≤ maxLayers) :
    (tableOf layers).toList.take layers.length = layers := by
  -- place by place: up to its length the table has what the list has
  refine List.ext_getElem? fun i => ?_
  rw [tableOf, Vector.toList_ofFn, List.getElem?_take]
  split
  · next hi =>
    have hplace : i < 16 := Nat.lt_of_lt_of_le hi hlen
    rw [List.getElem?_ofFn]
    simp [hplace, List.getElem?_eq_getElem hi]
  · next hi => rw [List.getElem?_eq_none (Nat.le_of_not_lt hi)]

/-- After them the table has default layers. -/
theorem tableOf_of_le {layers : List Layer} {place : Fin 16} (hplace : layers.length ≤ place.val) :
    (tableOf layers)[place] = .default := by
  rw [Fin.getElem_fin, tableOf, Vector.getElem_ofFn, List.getElem?_eq_none hplace]
  rfl

/-- The count of so few layers is stored as it is. -/
theorem toNat_layerCount (layers : List Layer) (hlen : layers.length ≤ maxLayers) :
    (UInt8.ofNat layers.length).toNat = layers.length := by
  rw [UInt8.toNat_ofNat']
  exact Nat.mod_eq_of_lt (Nat.lt_of_le_of_lt hlen (by decide))

theorem layers_publish (h : Header) (gpu : UInt64) (pid : UInt32) (config : FrameConfig)
    (layers : List Layer) (texture fence : UInt64) (hlen : layers.length ≤ maxLayers) :
    (h.publish gpu pid config layers texture fence).layers = layers := by
  show (tableOf layers).toList.take (UInt8.ofNat layers.length).toNat = layers
  rw [toNat_layerCount layers hlen, take_tableOf layers hlen]

/-! ## The feeder flag -/

/-- Setting a flag sets it. -/
theorem or_feederAttached (flags : UInt32) :
    (flags ||| feederAttached) &&& feederAttached = feederAttached := by
  apply UInt32.toBitVec_inj.mp
  ext i hi
  simp only [UInt32.toBitVec_and, UInt32.toBitVec_or, BitVec.getElem_and, BitVec.getElem_or]
  grind

theorem attachedFlag_publish (h : Header) (gpu : UInt64) (pid : UInt32) (config : FrameConfig)
    (layers : List Layer) (texture fence : UInt64) :
    (h.publish gpu pid config layers texture fence).attachedFlag = true := by
  show ((h.flags ||| feederAttached) &&& feederAttached != 0) = true
  rw [or_feederAttached]
  rfl

/-! ## Trust -/

/-- No layer of a list lies outside the texture when each lies inside. -/
theorem firstOutside_eq_none {layers : List Layer} {texture : PixelSize}
    (h : ∀ layer ∈ layers, layer.rect.fitsWithin texture = true) :
    firstOutside layers texture = none := by
  rw [firstOutside, List.find?_eq_none]
  rintro ⟨layer, index⟩ hmem
  rw [h layer (List.fst_mem_of_mem_zipIdx hmem)]
  decide

/-- What it takes to trust a header: the magic, a count that the table can hold, and layers inside
a texture that is not empty, if there are any. -/
theorem validate_eq_ok {h : Header} (hmagic : h.magic = headerMagic)
    (hcount : h.layerCount.toNat ≤ maxLayers)
    (hlayers : h.layerCount = 0 ∨ (h.config.textureSize.isEmpty = false ∧
      ∀ layer ∈ h.layers, layer.rect.fitsWithin h.config.textureSize = true)) :
    h.validate = .ok () := by
  rw [validate, if_neg (fun hne => hne hmagic), if_neg (Nat.not_lt.mpr hcount)]
  by_cases hzero : h.layerCount = 0
  · rw [if_pos hzero]
  · obtain ⟨hsize, hfit⟩ := hlayers.resolve_left hzero
    rw [if_neg hzero, if_neg (by rw [hsize]; decide), firstOutside_eq_none hfit]

/-- A header with the right magic and an accepted frame in it can be trusted. -/
theorem validate_publish {h : Header} {frame : Frame} (gpu : UInt64) (pid : UInt32)
    (hmagic : h.magic = headerMagic) (hcheck : frame.check = .ok ()) :
    (h.publish gpu pid frame.config frame.layers frame.texture frame.fence).validate =
      .ok () := by
  obtain ⟨hlen, hsize, hfit⟩ := frame.check_eq_ok_iff.mp hcheck
  refine validate_eq_ok hmagic ?_ ?_
  · show (UInt8.ofNat frame.layers.length).toNat ≤ maxLayers
    rw [toNat_layerCount _ hlen]
    exact hlen
  · rw [layers_publish _ _ _ _ _ _ _ hlen]
    rcases hsize with hnil | hsize
    · left
      show UInt8.ofNat frame.layers.length = 0
      rw [hnil]
      rfl
    · exact .inr ⟨hsize, fun layer hmem => (hfit layer hmem).2⟩

/-- A header with the right magic and an empty frame in it can be trusted. -/
theorem validate_publishEmpty {h : Header} (gpu : UInt64) (pid : UInt32)
    (hmagic : h.magic = headerMagic) : (h.publishEmpty gpu pid).validate = .ok () :=
  validate_eq_ok hmagic (Nat.zero_le _) (.inl rfl)

/-- A header has layers when its count says so. -/
theorem layerCount_eq_zero_iff (h : Header) : h.layerCount = 0 ↔ h.layers = [] := by
  rw [layers, List.take_eq_nil_iff]
  constructor
  · intro hzero
    rw [hzero]
    exact .inl rfl
  · rintro (hzero | hnil)
    · exact UInt8.toNat_inj.mp hzero
    · exact absurd (congrArg List.length hnil) (by rw [Vector.length_toList]; decide)

end Header

namespace Memory

/-! ## Stored headers -/

/-- Clearing the flags without a meaning keeps the one that has one. -/
theorem hasFeeder_stored (h : Header) : (stored h).hasFeeder = h.hasFeeder := by
  show (h.magic == headerMagic && (h.flags &&& feederAttached) &&& feederAttached != 0) = _
  rw [UInt32.and_assoc, UInt32.and_self]
  rfl

theorem validate_stored (h : Header) : (stored h).validate = h.validate := rfl

end Memory

end FrameExchange
