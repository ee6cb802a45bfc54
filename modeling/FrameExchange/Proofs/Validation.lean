import FrameExchange.Proofs.Aftermath

/-!
# Exact validation

A reader checks a header before it uses it, and a writer checks a frame before it publishes it. Both
checks are compared with one description in whole numbers: rectangles whose far edges, added up
without a limit, lie inside the texture.

- `Header.Valid`, `Header.FirstFault` — the headers to trust, and what is reported of the others.
- `Header.validate_eq_ok_iff`, `Header.validate_eq_error_iff` — the check of a header is that.
- `Frame.FirstFault`, `Frame.check_eq_error_iff` — the same for the frames that are refused.
- `Header.valid_publish_iff` — accepted frames make headers to trust.
- `Exchange.Judges` — what becomes of a frame that is submitted.
- `exactValidation` — all of it, the frames of every course included.
-/

namespace FrameExchange

/-! ## Rectangles in whole numbers -/

/-- The far edges of the rectangle, added up without a limit, are not past those of `bounds`. -/
def PixelRect.Inside (r : PixelRect) (bounds : PixelSize) : Prop :=
  r.origin.x.toNat + r.size.width.toNat ≤ bounds.width.toNat ∧
    r.origin.y.toNat + r.size.height.toNat ≤ bounds.height.toNat

theorem PixelRect.inside_iff {r : PixelRect} {bounds : PixelSize} :
    r.Inside bounds ↔ r.fitsWithin bounds = true := (r.fitsWithin_iff bounds).symm

/-- Neither dimension is zero. -/
def PixelSize.HasPixels (s : PixelSize) : Prop := s.width ≠ 0 ∧ s.height ≠ 0

theorem PixelSize.hasPixels_iff {s : PixelSize} : s.HasPixels ↔ s.isEmpty = false :=
  s.isEmpty_eq_false_iff.symm

namespace Header

/-! ## Headers -/

/-- What the table has in this place. -/
def layerAt (h : Header) (place : Fin 16) : Layer := h.layerTable.get place

/-- A header to trust: the right magic, no more layers than there are places for, and, if there is
any layer, a texture with pixels and each of those layers inside it. -/
structure Valid (h : Header) : Prop where
  magic : h.magic = headerMagic
  count : h.layerCount.toNat ≤ 16
  layers : h.layerCount.toNat = 0 ∨ h.config.textureSize.HasPixels ∧
    ∀ place : Fin 16, place.val < h.layerCount.toNat →
      (h.layerAt place).rect.Inside h.config.textureSize

/-- What is reported of any other header: the first of the conditions that does not hold, while all
before it do. Of the layers it is the first one that is not inside. -/
inductive FirstFault (h : Header) : HeaderFault → Prop where
  | badMagic : h.magic ≠ headerMagic → FirstFault h (.badMagic h.magic)
  | tooManyLayers : h.magic = headerMagic → 16 < h.layerCount.toNat →
      FirstFault h (.tooManyLayers h.layerCount)
  | emptyTexture : h.magic = headerMagic → h.layerCount.toNat ≤ 16 → 0 < h.layerCount.toNat →
      ¬h.config.textureSize.HasPixels → FirstFault h (.emptyTexture h.layerCount)
  | layerOutOfBounds (place : Fin 16) : h.magic = headerMagic → h.layerCount.toNat ≤ 16 →
      h.config.textureSize.HasPixels → place.val < h.layerCount.toNat →
      ¬(h.layerAt place).rect.Inside h.config.textureSize →
      (∀ earlier : Fin 16, earlier < place →
        (h.layerAt earlier).rect.Inside h.config.textureSize) →
      FirstFault h
        (.layerOutOfBounds place.val (h.layerAt place).rect h.config.textureSize)

variable {h : Header}

theorem getElem?_layerTable (place : Fin 16) :
    h.layerTable.toList[place.val]? = some (h.layerAt place) :=
  List.getElem?_eq_getElem (h.layerTable.length_toList.symm ▸ place.isLt)

/-- The layers are the places of the table before the stored count. -/
theorem getElem?_layers_eq_some_iff {index : Nat} {layer : Layer} :
    h.layers[index]? = some layer ↔
      ∃ place : Fin 16, place.val = index ∧ place.val < h.layerCount.toNat ∧
        h.layerAt place = layer := by
  rw [layers, List.getElem?_take]
  constructor
  · intro hlayer
    split at hlayer
    · next hcount =>
      have hplace := (List.getElem?_eq_some_iff.mp hlayer).1
      rw [Vector.length_toList] at hplace
      rw [getElem?_layerTable ⟨index, hplace⟩] at hlayer
      exact ⟨⟨index, hplace⟩, rfl, hcount, Option.some.inj hlayer⟩
    · cases hlayer
  · rintro ⟨place, rfl, hcount, rfl⟩
    rw [if_pos hcount, getElem?_layerTable]

/-- The search for a layer that is not inside finds the first one. -/
theorem firstOutside_eq_some_iff {layers : List Layer} {texture : PixelSize} {layer : Layer}
    {index : Nat} : firstOutside layers texture = some (layer, index) ↔
      layers[index]? = some layer ∧ ¬layer.rect.Inside texture ∧
        ∀ j earlier, j < index → layers[j]? = some earlier → earlier.rect.Inside texture := by
  simp only [PixelRect.inside_iff, Bool.not_eq_true]
  rw [firstOutside, List.find?_eq_some_iff_getElem]
  constructor
  · rintro ⟨houtside, place, hplace, hentry, hearlier⟩
    rw [List.getElem_zipIdx, Nat.zero_add] at hentry
    obtain ⟨rfl, rfl⟩ := Prod.mk.inj hentry
    rw [List.length_zipIdx] at hplace
    refine ⟨List.getElem?_eq_getElem hplace, by simpa using houtside, fun j earlier hj hlayer => ?_⟩
    obtain ⟨hlength, rfl⟩ := List.getElem?_eq_some_iff.mp hlayer
    simpa using hearlier j hj
  · rintro ⟨hlayer, houtside, hearlier⟩
    obtain ⟨hlength, rfl⟩ := List.getElem?_eq_some_iff.mp hlayer
    refine ⟨by simpa using houtside, index, by simpa using hlength, by simp, fun j hj => ?_⟩
    simpa using hearlier j _ hj (List.getElem?_eq_getElem (Nat.lt_trans hj hlength))

/-- Of every header there is something to report, or it is to be trusted. -/
theorem valid_or_firstFault (h : Header) : h.Valid ∨ ∃ fault, h.FirstFault fault := by
  by_cases hmagic : h.magic = headerMagic
  case neg => exact .inr ⟨_, .badMagic hmagic⟩
  by_cases hcount : h.layerCount.toNat ≤ 16
  case neg => exact .inr ⟨_, .tooManyLayers hmagic (Nat.not_le.mp hcount)⟩
  rcases Nat.eq_zero_or_pos h.layerCount.toNat with hzero | hpos
  · exact .inl ⟨hmagic, hcount, .inl hzero⟩
  by_cases hpixels : h.config.textureSize.HasPixels
  case neg => exact .inr ⟨_, .emptyTexture hmagic hcount hpos hpixels⟩
  cases hfirst : firstOutside h.layers h.config.textureSize with
  | none =>
    refine .inl ⟨hmagic, hcount, .inr ⟨hpixels, fun place hplace => ?_⟩⟩
    have hlayer := getElem?_layers_eq_some_iff.mpr ⟨place, rfl, hplace, rfl⟩
    rw [firstOutside, List.find?_eq_none] at hfirst
    simpa [PixelRect.inside_iff] using hfirst _ (List.mk_mem_zipIdx_iff_getElem?.mpr hlayer)
  | some entry =>
    obtain ⟨hlayer, houtside, hearlier⟩ := firstOutside_eq_some_iff.mp hfirst
    obtain ⟨place, hindex, hplace, hentry⟩ := getElem?_layers_eq_some_iff.mp hlayer
    refine .inr ⟨_, .layerOutOfBounds place hmagic hcount hpixels hplace (hentry ▸ houtside) ?_⟩
    intro earlier hlt
    exact hearlier earlier.val _ (hindex ▸ hlt)
      (getElem?_layers_eq_some_iff.mpr ⟨earlier, rfl, Nat.lt_trans hlt hplace, rfl⟩)

/-- A header to trust passes. -/
theorem Valid.validate (hvalid : h.Valid) : h.validate = .ok () := by
  refine validate_eq_ok hvalid.magic hvalid.count ?_
  rcases hvalid.layers with hzero | ⟨hpixels, hinside⟩
  · exact .inl (UInt8.toNat_inj.mp hzero)
  · refine .inr ⟨PixelSize.hasPixels_iff.mp hpixels, fun layer hmem => ?_⟩
    obtain ⟨index, hlayer⟩ := List.getElem?_of_mem hmem
    obtain ⟨place, -, hplace, rfl⟩ := getElem?_layers_eq_some_iff.mp hlayer
    exact PixelRect.inside_iff.mp (hinside place hplace)

/-- With the right magic, and some layers but not too many, the texture and the layers decide. -/
theorem validate_of_count (hmagic : h.magic = headerMagic) (hcount : h.layerCount.toNat ≤ 16)
    (hpos : 0 < h.layerCount.toNat) : h.validate =
      if h.config.textureSize.isEmpty then .error (.emptyTexture h.layerCount)
      else match firstOutside h.layers h.config.textureSize with
        | some (layer, index) =>
          .error (.layerOutOfBounds index layer.rect h.config.textureSize)
        | none => .ok () := by
  have hfew : ¬maxLayers < h.layerCount.toNat := Nat.not_lt.mpr hcount
  have hsome : h.layerCount ≠ 0 := fun hzero => by simp [hzero] at hpos
  exact (if_neg fun hne => hne hmagic).trans ((if_neg hfew).trans (if_neg hsome))

/-- What is to be reported is reported. -/
theorem FirstFault.validate {fault : HeaderFault} (hfault : h.FirstFault fault) :
    h.validate = .error fault := by
  cases hfault with
  | badMagic hmagic => rw [Header.validate, if_pos hmagic]
  | tooManyLayers hmagic hmany =>
    have hmany : maxLayers < h.layerCount.toNat := hmany
    rw [Header.validate, if_neg (fun hne => hne hmagic), if_pos hmany]
  | emptyTexture hmagic hcount hpos hpixels =>
    rw [PixelSize.hasPixels_iff, Bool.not_eq_false] at hpixels
    rw [validate_of_count hmagic hcount hpos, if_pos hpixels]
  | layerOutOfBounds place hmagic hcount hpixels hplace houtside hearlier =>
    have hsize : ¬h.config.textureSize.isEmpty = true := by
      rw [PixelSize.hasPixels_iff.mp hpixels]
      decide
    have hfirst : firstOutside h.layers h.config.textureSize =
        some (h.layerAt place, place.val) := by
      refine firstOutside_eq_some_iff.mpr
        ⟨getElem?_layers_eq_some_iff.mpr ⟨place, rfl, hplace, rfl⟩, houtside, ?_⟩
      intro j earlier hj hlayer
      obtain ⟨before, rfl, -, rfl⟩ := getElem?_layers_eq_some_iff.mp hlayer
      exact hearlier before hj
    rw [validate_of_count hmagic hcount (Nat.zero_lt_of_lt hplace), if_neg hsize, hfirst]

/-- The headers that pass are those to trust. -/
theorem validate_eq_ok_iff : h.validate = .ok () ↔ h.Valid := by
  refine ⟨fun hok => ?_, Valid.validate⟩
  rcases h.valid_or_firstFault with hvalid | ⟨fault, hfault⟩
  · exact hvalid
  · cases hok.symm.trans hfault.validate

/-- What is reported of a header is its first fault. -/
theorem validate_eq_error_iff {fault : HeaderFault} :
    h.validate = .error fault ↔ h.FirstFault fault := by
  refine ⟨fun herror => ?_, FirstFault.validate⟩
  rcases h.valid_or_firstFault with hvalid | ⟨other, hother⟩
  · cases herror.symm.trans hvalid.validate
  · cases herror.symm.trans hother.validate
    exact hother

/-- Only the magic, the count, the size of the texture and the rectangles before the count are
looked at. -/
theorem validate_congr {h' : Header} (hmagic : h'.magic = h.magic)
    (hcount : h'.layerCount = h.layerCount)
    (hsize : h'.config.textureSize = h.config.textureSize)
    (hrects : ∀ place : Fin 16, place.val < h.layerCount.toNat →
      (h'.layerAt place).rect = (h.layerAt place).rect) :
    h'.validate = h.validate := by
  rcases h.valid_or_firstFault with hvalid | ⟨fault, hfault⟩
  · rw [hvalid.validate, validate_eq_ok_iff]
    obtain ⟨hmagic', hcount', hlayers⟩ := hvalid
    refine ⟨hmagic.trans hmagic', hcount ▸ hcount', ?_⟩
    rw [hcount, hsize]
    exact hlayers.imp_right fun ⟨hpixels, hinside⟩ =>
      ⟨hpixels, fun place hplace => hrects place hplace ▸ hinside place hplace⟩
  · rw [hfault.validate, validate_eq_error_iff]
    cases hfault with
    | badMagic hbad => exact hmagic ▸ .badMagic (hmagic ▸ hbad)
    | tooManyLayers hmagic' hmany =>
      exact hcount ▸ .tooManyLayers (hmagic.trans hmagic') (hcount ▸ hmany)
    | emptyTexture hmagic' hfew hpos hpixels =>
      exact hcount ▸ .emptyTexture (hmagic.trans hmagic') (hcount ▸ hfew) (hcount ▸ hpos)
        (hsize ▸ hpixels)
    | layerOutOfBounds place hmagic' hfew hpixels hplace houtside hearlier =>
      rw [← hrects place hplace] at houtside ⊢
      rw [← hsize] at hpixels houtside hearlier ⊢
      refine .layerOutOfBounds place (hmagic.trans hmagic') (hcount ▸ hfew) hpixels
        (hcount ▸ hplace) houtside fun earlier hlt => ?_
      rw [hrects earlier (Nat.lt_trans hlt hplace)]
      exact hearlier earlier hlt

end Header

/-! ## Frames -/

/-- A check of every element reports the first one that does not pass. -/
theorem forM_eq_error_iff {ε α : Type} {check : α → Except ε Unit} {l : List α} {e : ε} :
    l.forM check = .error e ↔ ∃ before a after, l = before ++ a :: after ∧
      (∀ b ∈ before, check b = .ok ()) ∧ check a = .error e := by
  induction l with
  | nil =>
    refine ⟨fun h => (by cases h), ?_⟩
    rintro ⟨before, a, after, hnil, -⟩
    exact absurd hnil (by simp)
  | cons head rest ih =>
    rw [show (head :: rest).forM check = (check head >>= fun _ => rest.forM check) from rfl]
    constructor
    · intro h
      cases hhead : check head with
      | error other =>
        rw [hhead] at h
        cases h
        exact ⟨[], head, rest, rfl, fun _ hmem => absurd hmem List.not_mem_nil, hhead⟩
      | ok u =>
        rw [hhead] at h
        obtain ⟨before, a, after, rfl, hbefore, hlast⟩ := ih.mp h
        exact ⟨head :: before, a, after, rfl, List.forall_mem_cons.mpr ⟨hhead, hbefore⟩, hlast⟩
    · rintro ⟨before, a, after, hall, hbefore, hlast⟩
      cases before with
      | nil =>
        cases hall
        rw [hlast]
        rfl
      | cons b before =>
        cases hall
        obtain ⟨hhead, hbefore⟩ := List.forall_mem_cons.mp hbefore
        rw [hhead]
        exact ih.mpr ⟨before, a, after, rfl, hbefore, hlast⟩

/-- What is wrong with a faulty layer. An empty rectangle counts before one that is not inside. -/
inductive Layer.FirstFault (layer : Layer) (texture : PixelSize) : Violation → Prop where
  | empty : ¬layer.rect.size.HasPixels → FirstFault layer texture (.emptyLayer layer.id)
  | outside : layer.rect.size.HasPixels → ¬layer.rect.Inside texture →
      FirstFault layer texture (.layerOutside layer.id layer.rect texture)

/-- What is wrong with a frame that must not be published: the first of the conditions that it
breaks, and of the layers the first faulty one. -/
inductive Frame.FirstFault (frame : Frame) : Violation → Prop where
  | tooManyLayers : 16 < frame.layers.length →
      FirstFault frame (.tooManyLayers frame.layers.length)
  | layersOnEmptyTexture : frame.layers.length ≤ 16 → frame.layers ≠ [] →
      ¬frame.config.textureSize.HasPixels →
      FirstFault frame (.layersOnEmptyTexture frame.layers.length)
  | layer {before after : List Layer} {layer : Layer} {violation : Violation} :
      frame.layers.length ≤ 16 → frame.config.textureSize.HasPixels →
      frame.layers = before ++ layer :: after →
      (∀ earlier ∈ before, ¬earlier.Faulty frame.config.textureSize) →
      layer.FirstFault frame.config.textureSize violation → FirstFault frame violation

/-- The check of a layer reports what is wrong with it. -/
theorem Frame.checkLayer_eq_error_iff {texture : PixelSize} {layer : Layer}
    {violation : Violation} :
    checkLayer texture layer = .error violation ↔ layer.FirstFault texture violation := by
  rw [checkLayer]
  constructor
  · intro h
    split at h
    · next hempty =>
      cases h
      exact .empty (by rw [PixelSize.hasPixels_iff, hempty]; decide)
    · next hpixels =>
      split at h
      · cases h
      · next houtside =>
        cases h
        exact .outside (PixelSize.hasPixels_iff.mpr (Bool.not_eq_true _ ▸ hpixels))
          (mt PixelRect.inside_iff.mp houtside)
  · intro h
    cases h with
    | empty hempty =>
      rw [PixelSize.hasPixels_iff, Bool.not_eq_false] at hempty
      rw [if_pos hempty]
    | outside hpixels houtside =>
      rw [PixelSize.hasPixels_iff] at hpixels
      rw [PixelRect.inside_iff] at houtside
      rw [if_neg (by rw [hpixels]; decide), if_neg houtside]

/-- The layers that pass are those without a fault. -/
theorem Frame.checkLayer_eq_ok {texture : PixelSize} {layer : Layer} :
    checkLayer texture layer = .ok () ↔ ¬layer.Faulty texture := by
  rw [checkLayer_eq_ok_iff, Layer.not_faulty_iff]

/-- The check of a frame reports what is wrong with it. -/
theorem Frame.check_eq_error_iff {frame : Frame} {violation : Violation} :
    frame.check = .error violation ↔ frame.FirstFault violation := by
  rw [check]
  constructor
  · intro h
    split at h
    · next hmany =>
      cases h
      exact .tooManyLayers hmany
    · next hmany =>
      have hfew : frame.layers.length ≤ 16 := Nat.not_lt.mp hmany
      split at h
      · next hempty =>
        cases h
        rw [Bool.and_eq_true, Bool.not_eq_true', List.isEmpty_eq_false_iff] at hempty
        exact .layersOnEmptyTexture hfew hempty.1
          (by rw [PixelSize.hasPixels_iff, hempty.2]; decide)
      · next hsize =>
        obtain ⟨before, layer, after, hlayers, hbefore, hfault⟩ := forM_eq_error_iff.mp h
        simp only [checkLayer_eq_ok, checkLayer_eq_error_iff] at hbefore hfault
        refine .layer hfew ?_ hlayers hbefore hfault
        rw [hlayers] at hsize
        rw [PixelSize.hasPixels_iff]
        simpa using hsize
  · intro h
    cases h with
    | tooManyLayers hmany =>
      have hmany : maxLayers < frame.layers.length := hmany
      rw [if_pos hmany]
    | layersOnEmptyTexture hfew hsome hpixels =>
      have hfew : ¬maxLayers < frame.layers.length := Nat.not_lt.mpr hfew
      rw [PixelSize.hasPixels_iff, Bool.not_eq_false] at hpixels
      rw [if_neg hfew, if_pos]
      simp [hsome, hpixels]
    | layer hfew hpixels hlayers hbefore hfault =>
      have hfew : ¬maxLayers < frame.layers.length := Nat.not_lt.mpr hfew
      rw [PixelSize.hasPixels_iff] at hpixels
      rw [if_neg hfew, if_neg (by simp [hpixels]), forM_eq_error_iff]
      simp only [checkLayer_eq_ok, checkLayer_eq_error_iff]
      exact ⟨_, _, _, hlayers, hbefore, hfault⟩

/-- With an accepted frame in it a header is to be trusted exactly when its magic was right. -/
theorem Header.valid_publish_iff {h : Header} {frame : Frame} (gpu : UInt64) (pid : UInt32)
    (haccepted : ¬frame.Faulty) :
    (h.publish gpu pid frame.config frame.layers frame.texture frame.fence).Valid ↔
      h.magic = headerMagic := by
  refine ⟨fun hvalid => hvalid.magic, fun hmagic => ?_⟩
  rw [frame.faulty_iff, ne_eq, Classical.not_not] at haccepted
  exact validate_eq_ok_iff.mp (validate_publish gpu pid hmagic haccepted)

/-! ## Frames that are submitted -/

/-- What becomes of a frame that a thread submits. -/
structure Exchange.Judges (x : Exchange) (id : Nat) (thread : Thread) (frame : Frame) : Prop where
  /-- It is refused exactly when it must not be published. -/
  refuses : (∃ violation y, x.step thread (.call id (.submit frame)) =
    some (.failed (.violation violation), y)) ↔ frame.Faulty
  /-- The first thing that is wrong with it is named, and no byte of the region is touched. -/
  names : ∀ violation y, x.step thread (.call id (.submit frame)) =
    some (.failed (.violation violation), y) → frame.FirstFault violation ∧ y.memory = x.memory
  /-- Any other frame is published, and the header with it is to be trusted. -/
  publishes : ¬frame.Faulty → ∃ y, x.step thread (.call id (.submit frame)) = some (.done, y) ∧
    y.header.Valid ∧ y.header.layers = frame.layers ∧ y.header.config = frame.config

namespace Exchange

variable {x y : Exchange} {id : Nat} {c : Client} {w : Writer} {thread : Thread} {frame : Frame}

/-- A frame that does not pass its check is refused, and the rule is named that the check names. -/
theorem Held.submit_names {next : NextFrame} {answer : Answer} (hheld : x.Held id c thread)
    (hbody : c.body = .writer w) (htoken : c.token = some next) {violation : Violation}
    (hcheck : frame.check = .error violation)
    (hstep : x.step thread (.call id (.submit frame)) = some (answer, y)) :
    answer = .failed (.violation violation) := by
  obtain ⟨-, c', operation, hclient, -, hoperation, hends⟩ := step_ends hstep
  cases hheld.client.symm.trans hclient
  rw [Client.operation, hbody, htoken] at hoperation
  cases hoperation
  have hresult : w.submit frame (x.site thread c.book) =
      .error (.violation violation) (x.site thread c.book) := by
    rw [Writer.submit, hcheck]
    rfl
  rw [Act.answering, Act.bind_error hresult] at hends
  cases hends
  rfl

/-- A writer that has begun a frame refuses the ones that must not be published and publishes all
others. -/
theorem Held.judges {next : NextFrame} (hheld : x.Held id c thread) (hsound : x.Sound)
    (hbody : c.body = .writer w) (htoken : c.token = some next) : x.Judges id thread frame := by
  have hphase : c.book.machine.phase = .frameInProgress :=
    ((hsound.settled id c hheld.client).begun (by simp [htoken])).2
  have hpublishes (haccepted : ¬frame.Faulty) :
      ∃ y, x.step thread (.call id (.submit frame)) = some (.done, y) ∧
        y.header = Memory.stored (x.header.publish w.gpu w.pid frame.config frame.layers
          frame.texture frame.fence) := by
    rw [frame.faulty_iff, ne_eq, Classical.not_not] at haccepted
    obtain ⟨y, hstep, -, hheader⟩ := hheld.submit hsound hbody hphase htoken haccepted
    exact ⟨y, hstep, hheader⟩
  have hrefused {violation : Violation} {y : Exchange}
      (hstep : x.step thread (.call id (.submit frame)) =
        some (.failed (.violation violation), y)) : frame.Faulty := by
    by_contra haccepted
    obtain ⟨z, hdone, -⟩ := hpublishes haccepted
    cases hdone.symm.trans hstep
  constructor
  case refuses =>
    refine ⟨fun ⟨violation, y, hstep⟩ => hrefused hstep, fun hfaulty => ?_⟩
    obtain ⟨y, ⟨violation, hstep⟩, -⟩ := hheld.discards hsound hbody htoken (.submit hfaulty)
    exact ⟨violation, y, hstep⟩
  case names =>
    intro violation y hstep
    refine ⟨?_, hsound.call_fails hstep trivial⟩
    cases hcheck : frame.check with
    | ok u => exact absurd hcheck (frame.faulty_iff.mp (hrefused hstep))
    | error other =>
      cases hheld.submit_names hbody htoken hcheck hstep
      exact Frame.check_eq_error_iff.mp hcheck
  case publishes =>
    intro haccepted
    obtain ⟨y, hstep, hheader⟩ := hpublishes haccepted
    have hmagic := hsound.magic id c w hheld.client hbody
    have hvalid := (Header.valid_publish_iff w.gpu w.pid haccepted).mpr hmagic
    have hfew : frame.layers.length ≤ maxLayers :=
      Nat.not_lt.mp fun hmany => haccepted (.inl hmany)
    rw [← Header.validate_eq_ok_iff] at hvalid
    refine ⟨y, hstep, ?_, ?_, ?_⟩
    · rw [hheader, ← Header.validate_eq_ok_iff, Memory.validate_stored]
      exact hvalid
    · rw [hheader]
      exact Header.layers_publish x.header w.gpu w.pid frame.config frame.layers frame.texture
        frame.fence hfew
    · rw [hheader]
      rfl

end Exchange

/-! ## Both checks -/

/-- Validation is exact: headers and frames are told apart as they are described in whole
numbers. -/
structure ExactValidation : Prop where
  /-- The headers that pass are those to trust. -/
  passes : ∀ h : Header, h.validate = .ok () ↔ h.Valid
  /-- Of any other header its first fault is reported. -/
  reports : ∀ (h : Header) (fault : HeaderFault), h.validate = .error fault ↔ h.FirstFault fault
  /-- The places of the table at or past the count, and all that is not about the magic, the count,
  the texture or a rectangle, make no difference. -/
  ignores : ∀ h h' : Header, h'.magic = h.magic → h'.layerCount = h.layerCount →
    h'.config.textureSize = h.config.textureSize →
    (∀ place : Fin 16, place.val < h.layerCount.toNat →
      (h'.layerAt place).rect = (h.layerAt place).rect) → h'.validate = h.validate
  /-- Whatever a header has held, with an accepted frame in it only its magic can be wrong. -/
  stores : ∀ (h : Header) (frame : Frame) (gpu : UInt64) (pid : UInt32), ¬frame.Faulty →
    ((h.publish gpu pid frame.config frame.layers frame.texture frame.fence).Valid ↔
      h.magic = headerMagic)
  /-- Whatever has happened on a region, a living writer that has begun a frame refuses the frames
  that must not be published and makes a header to trust of every other. -/
  judges : ∀ (names : RegionNames) (host : Host) (deeds : List Deed) (x : Exchange) (id : Nat)
    (c : Client) (w : Writer) (thread : Thread) (next : NextFrame) (frame : Frame),
    Course (.start names host) deeds x → x.Held id c thread → c.body = .writer w →
    c.token = some next → x.Judges id thread frame

/-- What a writer accepts and what a reader accepts are what the description says. -/
theorem exactValidation : ExactValidation where
  passes _ := Header.validate_eq_ok_iff
  reports _ _ := Header.validate_eq_error_iff
  ignores _ _ hmagic hcount hsize hrects := Header.validate_congr hmagic hcount hsize hrects
  stores _ _ gpu pid haccepted := Header.valid_publish_iff gpu pid haccepted
  judges names host deeds x id c w thread next frame hcourse hheld hbody htoken := by
    -- a thread that has guards has the lock, so it is not that of a dead owner
    have howned : x.mutex.holding ≠ .orphaned := fun horphaned =>
      hcourse.ordered.not_guardOf horphaned hheld.alive hheld.client hheld.guard
    exact hheld.judges (hcourse.sound howned) hbody htoken

/-- A writer that has published begins once more. A frame whose layer lies below the texture is
refused then, and the frame of the sample is published. -/
theorem exactValidation_sample : ∃ deeds x c next,
    Exchange.sample.play (Exchange.againScript ++ [(⟨7, 0⟩, .call 0 .beginFrame)]) =
      some (deeds, x) ∧
    x.Held 0 c ⟨7, 0⟩ ∧ c.body = .writer ⟨5, 7⟩ ∧ c.token = some next ∧
    Exchange.outsideFrame.Faulty ∧ x.Judges 0 ⟨7, 0⟩ Exchange.outsideFrame ∧
    ¬Exchange.sampleFrame.Faulty ∧ x.Judges 0 ⟨7, 0⟩ Exchange.sampleFrame := by
  have hplayed : (Exchange.sample.play
      (Exchange.againScript ++ [(⟨7, 0⟩, .call 0 .beginFrame)])).map (fun played =>
        (played.2.dead, (played.2.clients.get? 0).map fun c =>
          (c.body, decide (c.GuardOf ⟨7, 0⟩), c.token.map NextFrame.slot))) =
      some ([], some (.writer ⟨5, 7⟩, true, some 0)) := by
    decide +kernel
  have hfaulty : Exchange.outsideFrame.Faulty := by
    rw [Frame.faulty_iff]
    decide +kernel
  have haccepted : ¬Exchange.sampleFrame.Faulty := by
    rw [Frame.faulty_iff]
    decide +kernel
  obtain ⟨⟨deeds, x⟩, hplay, hfacts⟩ := Option.map_eq_some_iff.mp hplayed
  obtain ⟨hdead, hfound⟩ := Prod.mk.inj hfacts
  obtain ⟨c, hclient, hfacts⟩ := Option.map_eq_some_iff.mp hfound
  obtain ⟨hbody, hfacts⟩ := Prod.mk.inj hfacts
  obtain ⟨hguard, hbegun⟩ := Prod.mk.inj hfacts
  obtain ⟨next, htoken, -⟩ := Option.map_eq_some_iff.mp hbegun
  have hheld : x.Held 0 c ⟨7, 0⟩ := by
    refine ⟨hclient, of_decide_eq_true hguard, ?_⟩
    rw [show x.dead = [] from hdead]
    exact List.not_mem_nil
  have hcourse : Course Exchange.sample deeds x := Course.of_run (Run.of_play hplay)
  exact ⟨deeds, x, c, next, hplay, hheld, hbody, htoken, hfaulty,
    exactValidation.judges _ _ _ _ _ _ _ _ _ _ hcourse hheld hbody htoken, haccepted,
    exactValidation.judges _ _ _ _ _ _ _ _ _ _ hcourse hheld hbody htoken⟩

end FrameExchange
