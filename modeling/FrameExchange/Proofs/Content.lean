import FrameExchange.Proofs.Recovery

/-!
# What is in the header

The header of a region that only its objects write to, field by field, after any steps. Either
nobody has ever touched the memory, or there is a session. Then the header is that of a session
without a feeder, until a frame is published, and from then on it says what was published last and
by whom.

- `Header.Proper` — what holds of the fields of a header.
- `sinceSession` — the steps since a session was begun.
- `Header.StemsFrom` — a header says what a step has published.
- `Header.Reflects`, `Deed.Valid.reflects` — a header and the steps that led to it.
- `Exchange.Begins`, `Run.headerReflects` — where such a region begins, and what holds ever after.
-/

namespace FrameExchange

/-! ## Sessions and settings -/

/-- The session of a process that has a number is never the empty one. -/
theorem Host.sessionOf_ne_zero {pid : UInt32} (hpid : pid ≠ 0) (word : UInt32) :
    sessionOf pid word ≠ 0 := by
  intro hzero
  have hhigh : pid.toUInt64 <<< 32 = 0 := (UInt64.or_eq_zero_iff.mp hzero).1
  have hval := congrArg UInt64.toNat hhigh
  have hlt := pid.toNat_lt
  rw [UInt64.toNat_shiftLeft, UInt32.toNat_toUInt64, Nat.shiftLeft_eq] at hval
  have hshift : (32 : UInt64).toNat % 64 = 32 := rfl
  have hnone : (0 : UInt64).toNat = 0 := rfl
  rw [hshift, hnone] at hval
  refine hpid (UInt32.toNat_inj.mp ?_)
  show pid.toNat = 0
  omega

/-- Settings that can be made from `FrameConfig.ofSize`: every field can be set but the reserved
one. -/
def FrameConfig.Made (c : FrameConfig) : Prop :=
  ∃ size inputLayer textureSize tint flags,
    c = { ofSize size with inputLayer, textureSize, tint, flags }

theorem FrameConfig.made_iff {c : FrameConfig} : c.Made ↔ c.reserved = 0 := by
  constructor
  · rintro ⟨size, inputLayer, textureSize, tint, flags, rfl⟩
    rfl
  · intro hreserved
    refine ⟨c.textureSize, c.inputLayer, c.textureSize, c.tint, c.flags, ?_⟩
    rw [ofSize, default, ← hreserved]

/-! ## Fields -/

namespace Header

variable {h h' : Header} {gpu session : UInt64}

/-- A header as an object leaves it. -/
structure Proper (h : Header) : Prop where
  magic : h.magic = headerMagic
  session : h.session ≠ 0
  flags : h.flags = 0 ∨ h.flags = feederAttached
  reserved : h.reserved0 = 0 ∧ h.reserved1 = Vector.replicate 7 0 ∧ h.reserved2 = 0 ∧
    h.config.reserved = 0
  valid : h.validate = .ok ()
  /-- Every layer has pixels. -/
  sized : ∀ layer ∈ h.layers, layer.rect.size.width ≠ 0 ∧ layer.rect.size.height ≠ 0
  /-- Nothing of an earlier frame is left behind the layers. -/
  unused : ∀ place : Fin 16, h.layerCount.toNat ≤ place.val → h.layerTable[place] = .default
  /-- Without a feeder there is nothing of a frame at all. -/
  vacant : h.flags = 0 → h.layers = [] ∧ h.texture = 0 ∧ h.fence = 0 ∧ h.feederPid = 0 ∧
    h.config = .default

/-- A header without layers has an empty table. -/
theorem unused_replicate (place : Fin 16) :
    (Vector.replicate 16 Layer.default)[place] = .default := by
  rw [Fin.getElem_fin, Vector.getElem_replicate]

theorem proper_ofSession (gpu : UInt64) (hsession : session ≠ 0) :
    (ofSession gpu session).Proper where
  magic := rfl
  session := hsession
  flags := .inl rfl
  reserved := ⟨rfl, rfl, rfl, rfl⟩
  valid := validate_eq_ok rfl (Nat.zero_le _) (.inl rfl)
  sized := fun layer hmem => by cases hmem
  unused := fun place _ => unused_replicate place
  vacant := fun _ => ⟨rfl, rfl, rfl, rfl, rfl⟩

/-- Fence values do not matter. -/
theorem Proper.sameFrame (hproper : h.Proper) (hsame : h.SameFrame h') : h'.Proper := by
  rw [hsame.rest]
  exact { hproper with }

/-- Of the flags only the one that was set is stored. -/
theorem flags_stored (before : UInt32) (hflags : h.flags = before ||| feederAttached) :
    (Memory.stored h).flags = feederAttached := by
  show h.flags &&& feederAttached = feederAttached
  rw [hflags, or_feederAttached]

theorem feederAttached_ne_zero : feederAttached ≠ 0 := by decide

theorem Proper.publish (hproper : h.Proper) (w : Writer) {frame : Frame}
    (hcheck : frame.check = .ok ()) (hmade : frame.config.Made) :
    (Memory.stored (h.publish w.gpu w.pid frame.config frame.layers frame.texture
      frame.fence)).Proper := by
  have hflags : (Memory.stored (h.publish w.gpu w.pid frame.config frame.layers frame.texture
      frame.fence)).flags = feederAttached := flags_stored h.flags rfl
  obtain ⟨hlen, -, hlayers⟩ := frame.check_eq_ok_iff.mp hcheck
  constructor
  case magic => exact hproper.magic
  case session => exact hproper.session
  case flags => exact .inr hflags
  case reserved =>
    obtain ⟨hreserved0, hreserved1, hreserved2, -⟩ := hproper.reserved
    exact ⟨hreserved0, hreserved1, hreserved2, FrameConfig.made_iff.mp hmade⟩
  case valid => exact validate_publish w.gpu w.pid hproper.magic hcheck
  case sized =>
    intro layer hmem
    have hmem' : layer ∈ frame.layers := by
      rw [← layers_publish h w.gpu w.pid frame.config frame.layers frame.texture frame.fence hlen]
      exact hmem
    exact layer.rect.size.isEmpty_eq_false_iff.mp (hlayers layer hmem').1
  case unused =>
    -- the count is stored in a byte, which is wide enough for as many layers as are accepted
    intro place hplace
    have hcount : (UInt8.ofNat frame.layers.length).toNat ≤ place.val := hplace
    rw [toNat_layerCount _ hlen] at hcount
    exact tableOf_of_le hcount
  case vacant =>
    intro hzero
    rw [hflags] at hzero
    exact absurd hzero feederAttached_ne_zero

theorem Proper.publishEmpty (hproper : h.Proper) (w : Writer) :
    (Memory.stored (h.publishEmpty w.gpu w.pid)).Proper := by
  have hflags : (Memory.stored (h.publishEmpty w.gpu w.pid)).flags = feederAttached :=
    flags_stored h.flags rfl
  constructor
  case magic => exact hproper.magic
  case session => exact hproper.session
  case flags => exact .inr hflags
  case reserved => exact hproper.reserved
  case valid => exact validate_publishEmpty w.gpu w.pid hproper.magic
  case sized =>
    intro layer hmem
    cases hmem
  case unused =>
    intro place _
    exact unused_replicate place
  case vacant =>
    intro hzero
    rw [hflags] at hzero
    exact absurd hzero feederAttached_ne_zero

end Header

/-! ## What was published last -/

/-- The steps since a session was begun, or all of them where that was before the first one. -/
def sinceSession (deeds : List Deed) : List Deed :=
  deeds.foldl (fun since d => if d.drawn = [] then since ++ [d] else []) []

section

variable {deeds : List Deed} {d : Deed}

theorem sinceSession_concat (deeds : List Deed) (d : Deed) : sinceSession (deeds ++ [d]) =
    if d.drawn = [] then sinceSession deeds ++ [d] else [] := by
  rw [sinceSession, List.foldl_append]
  rfl

theorem sinceSession_steady (hdrawn : d.drawn = []) :
    sinceSession (deeds ++ [d]) = sinceSession deeds ++ [d] := by
  rw [sinceSession_concat, if_pos hdrawn]

theorem sinceSession_drawn (hdrawn : d.drawn ≠ []) : sinceSession (deeds ++ [d]) = [] := by
  rw [sinceSession_concat, if_neg hdrawn]

/-- They are the last steps, and no session is begun in them. -/
theorem sinceSession_suffix (deeds : List Deed) :
    sinceSession deeds <:+ deeds ∧ ∀ e ∈ sinceSession deeds, e.drawn = [] := by
  induction deeds using List.reverseRecOn with
  | nil => exact ⟨List.suffix_rfl, fun e hmem => by cases hmem⟩
  | append_singleton deeds d ih =>
    obtain ⟨⟨front, hfront⟩, hsteady⟩ := ih
    by_cases hdrawn : d.drawn = []
    · rw [sinceSession_steady hdrawn, List.forall_mem_append]
      refine ⟨⟨front, ?_⟩, hsteady, fun e hmem => List.mem_singleton.mp hmem ▸ hdrawn⟩
      rw [← List.append_assoc, hfront]
    · rw [sinceSession_drawn hdrawn]
      exact ⟨List.nil_suffix, fun e hmem => by cases hmem⟩

/-- In a session there are not so many frames that their numbers come again. -/
theorem Unwrapped.count_lt (hunwrapped : Unwrapped deeds) :
    (sinceSession deeds).countP Deed.publishes < UInt64.size := by
  obtain ⟨hsuffix, hsteady⟩ := sinceSession_suffix deeds
  exact hunwrapped _ hsuffix.isInfix hsteady

end

/-- The header says what the step has published, and which writer has done so. -/
structure Header.StemsFrom (h : Header) (d : Deed) : Prop where
  publishes : d.publishes = true
  attached : h.flags = feederAttached
  writer : ∃ id what c w, d.move = .call id what ∧ d.before.clients.get? id = some c ∧
    c.body = .writer w ∧ h.gpu = w.gpu ∧ h.feederPid = w.pid
  frame : ∀ id frame, d.move = .call id (.submit frame) → h.config = frame.config ∧
    h.layers = frame.layers ∧ h.texture = frame.texture ∧ h.fence = frame.fence
  /-- The settings of the last frame stay. -/
  empty : ∀ id, d.move = .call id .submitEmpty → h.config = d.before.header.config ∧
    h.layers = [] ∧ h.texture = 0 ∧ h.fence = 0

/-- Fence values do not matter. -/
theorem Header.StemsFrom.sameFrame {h h' : Header} {d : Deed} (hstems : h.StemsFrom d)
    (hsame : h.SameFrame h') : h'.StemsFrom d := by
  rw [hsame.rest]
  exact { hstems with }

namespace Deed.Valid

variable {d : Deed}

/-- Whoever publishes is in the header then. -/
theorem stems (hvalid : d.Valid) (hsound : d.before.Sound) (hpublishes : d.publishes = true) :
    d.after.header.StemsFrom d := by
  have hrewrites := hvalid.rewrites hsound
  have hpublishes' := hpublishes
  unfold publishes at hpublishes
  generalize hmove : d.move = move at hrewrites hpublishes
  generalize hanswer : d.answer = answer at hrewrites hpublishes
  generalize d.after = y at hrewrites ⊢
  cases hrewrites with
  | kept hnot => rw [hnot] at hpublishes; cases hpublishes
  | raised => cases hpublishes
  | restarted hnot => rw [hnot] at hpublishes; cases hpublishes
  | @published id c w frame next y hclient hbody _ _ hcheck hheader =>
    rw [hheader]
    refine ⟨hpublishes', ?_, ⟨id, _, c, w, hmove, hclient, hbody, rfl, rfl⟩, ?_, ?_⟩
    · exact Header.flags_stored d.before.header.flags rfl
    · intro id' frame' hmove'
      rw [hmove] at hmove'
      cases hmove'
      refine ⟨rfl, ?_, rfl, rfl⟩
      exact Header.layers_publish d.before.header w.gpu w.pid frame.config frame.layers
        frame.texture frame.fence (frame.check_eq_ok_iff.mp hcheck).1
    · intro id' hmove'
      rw [hmove] at hmove'
      cases hmove'
  | @emptied id c w y hclient hbody hheader =>
    rw [hheader]
    refine ⟨hpublishes', ?_, ⟨id, _, c, w, hmove, hclient, hbody, rfl, rfl⟩, ?_, ?_⟩
    · exact Header.flags_stored d.before.header.flags rfl
    · intro id' frame' hmove'
      rw [hmove] at hmove'
      cases hmove'
    · intro id' _
      exact ⟨rfl, rfl, rfl, rfl⟩

/-- Every step leaves the fields in order. -/
theorem proper (hvalid : d.Valid) (hsound : d.before.Sound) (hpid : d.thread.pid ≠ 0)
    (hmade : ∀ id frame, d.Submits id frame → frame.config.Made)
    (hproper : d.before.header.Proper) : d.after.header.Proper := by
  have hrewrites := hvalid.rewrites hsound
  unfold Submits at hmade
  generalize d.move = move at hrewrites hmade
  generalize d.answer = answer at hrewrites hmade
  generalize d.after = y at hrewrites ⊢
  cases hrewrites with
  | kept _ _ hheader => rw [hheader]; exact hproper
  | raised hheader => rw [hheader]; exact hproper.sameFrame (.raise _)
  | @published id _ w frame _ _ _ _ _ _ hcheck hheader =>
    rw [hheader]
    exact hproper.publish w hcheck (hmade id frame ⟨rfl, rfl⟩)
  | @emptied _ _ w _ _ _ hheader =>
    rw [hheader]
    exact hproper.publishEmpty w
  | restarted _ _ _ _ hheader =>
    rw [hheader]
    exact Header.proper_ofSession _ (Host.sessionOf_ne_zero hpid _)

end Deed.Valid

/-! ## A header and the steps that led to it -/

/-- The header of a session, as these steps have left it. -/
structure Header.Reflects (h : Header) (deeds : List Deed) : Prop extends h.Proper where
  /-- The frames of the session are counted. -/
  counted : h.frame = UInt64.ofNat ((sinceSession deeds).countP Deed.publishes)
  /-- There is a feeder where there was a frame in the session. -/
  attached : h.flags = feederAttached ↔ ∃ d ∈ sinceSession deeds, d.publishes = true
  /-- The last frame is in the header. -/
  author : h.flags = feederAttached → ∃ earlier d later,
    sinceSession deeds = earlier ++ d :: later ∧ (∀ e ∈ later, e.publishes = false) ∧
      h.StemsFrom d

section

variable {deeds : List Deed} {d : Deed} {h : Header}

/-- A session has begun. -/
theorem Header.reflects_ofSession (gpu : UInt64) {session : UInt64} (hsession : session ≠ 0)
    (hnone : sinceSession deeds = []) : (ofSession gpu session).Reflects deeds where
  toProper := proper_ofSession gpu hsession
  counted := by
    rw [hnone]
    rfl
  attached := by
    rw [hnone]
    constructor
    · intro hflags
      exact absurd hflags.symm feederAttached_ne_zero
    · rintro ⟨d, hmem, -⟩
      cases hmem
  author := fun hflags => absurd hflags.symm feederAttached_ne_zero

/-- As long as numbers do not come again there is a feeder exactly where there is a number. -/
theorem Header.Reflects.attached_iff (hreflects : h.Reflects deeds)
    (hunwrapped : Unwrapped deeds) : h.flags = feederAttached ↔ h.frame ≠ 0 := by
  have hbound := hunwrapped.count_lt
  rw [hreflects.attached, hreflects.counted, ← List.countP_pos_iff, Nat.pos_iff_ne_zero]
  exact (not_congr (ofNat_eq_zero_iff hbound)).symm

/-- Every step keeps it up to date. -/
theorem Deed.Valid.reflects (hvalid : d.Valid) (hsound : d.before.Sound)
    (hpid : d.thread.pid ≠ 0) (hmade : ∀ id frame, d.Submits id frame → frame.config.Made)
    (hreflects : d.before.header.Reflects deeds) : d.after.header.Reflects (deeds ++ [d]) := by
  have hproper := hvalid.proper hsound hpid hmade hreflects.toProper
  by_cases hdrawn : d.drawn = []
  · -- the session goes on; either the step counts as one more frame or the last one stays
    have hsince : sinceSession (deeds ++ [d]) = sinceSession deeds ++ [d] :=
      sinceSession_steady hdrawn
    cases hpublishes : d.publishes with
    | false =>
      have hsame := hvalid.sameFrame hsound ⟨hpublishes, hdrawn⟩
      have hflags : d.after.header.flags = d.before.header.flags := by rw [hsame.rest]
      refine ⟨hproper, ?_, ?_, ?_⟩
      · rw [hsince, List.countP_append, List.countP_singleton, hpublishes, hsame.rest]
        exact hreflects.counted
      · rw [hsince, hflags, hreflects.attached]
        simp [hpublishes]
      · rw [hsince, hflags]
        intro hattached
        obtain ⟨earlier, a, later, heq, hlater, hstems⟩ := hreflects.author hattached
        refine ⟨earlier, a, later ++ [d], ?_, ?_, hstems.sameFrame hsame⟩
        · rw [heq, List.append_assoc, List.cons_append]
        · rw [List.forall_mem_append]
          exact ⟨hlater, fun e hmem => List.mem_singleton.mp hmem ▸ hpublishes⟩
    | true =>
      have hstems := hvalid.stems hsound hpublishes
      refine ⟨hproper, ?_, ?_, ?_⟩
      · rw [(hvalid.counts hsound hpublishes).2.2, hreflects.counted, hsince, List.countP_append,
          List.countP_singleton, if_pos hpublishes, UInt64.ofNat_add]
        rfl
      · rw [hsince]
        exact ⟨fun _ => ⟨d, List.mem_append_right _ (List.mem_singleton.mpr rfl), hpublishes⟩,
          fun _ => hstems.attached⟩
      · rw [hsince]
        intro _
        exact ⟨sinceSession deeds, d, [], rfl, fun e hmem => (by cases hmem), hstems⟩
  · obtain ⟨gpu, k, -, -, hheader⟩ := hvalid.begins hsound hdrawn
    rw [hheader]
    exact Header.reflects_ofSession gpu (Host.sessionOf_ne_zero hpid _)
      (sinceSession_drawn hdrawn)

end

/-! ## Where it begins -/

namespace Exchange

/-- Where a region begins: nobody has ever touched it, or a writer has just begun a session in it,
whatever was in the memory and whoever had used it before. -/
inductive Begins : Exchange → Prop where
  | zeroed (names : RegionNames) (host : Host) : Begins (.start names host)
  | attached {x y : Exchange} {thread : Thread} {id : Nat} {gpu : UInt64} (memory : Bytes) :
      Mortal x → Header.byteSize ≤ memory.length → thread.pid ≠ 0 →
      { x with memory }.step thread (.openWriter id gpu) = some (.done, y) → Begins y

variable {x y : Exchange} {thread : Thread} {id : Nat} {gpu : UInt64}

/-- The objects of a region do not depend on its memory. -/
theorem Ordered.over (hordered : x.Ordered) {memory : Bytes}
    (hlen : Header.byteSize ≤ memory.length) : { x with memory }.Ordered := by
  obtain ⟨⟨-, hsettled, hrests, hkept⟩, hexclusive⟩ := hordered
  exact ⟨⟨hlen, hsettled, hrests, hkept⟩, hexclusive.checked, hexclusive.owned, hexclusive.single⟩

/-- A writer that is opened makes everything right. -/
theorem Ordered.attached (hordered : x.Ordered)
    (hstep : x.step thread (.openWriter id gpu) = some (.done, y)) :
    y.Sound ∧ ∃ word, y.header = .ofSession gpu (Host.sessionOf thread.pid word) := by
  have hafter := hordered.step hstep
  obtain ⟨-, hhappens⟩ := happens hordered.settled hordered.length hstep
  obtain ⟨word, hheader, hfree⟩ : ∃ word,
      y.header = .ofSession gpu (Host.sessionOf thread.pid word) ∧ y.Unowned := by
    cases hhappens with
    | attached _ hrestarted =>
      obtain ⟨k, -, -, hload⟩ := hrestarted.renewed.header
      refine ⟨_, hload hordered.length, .inl ?_⟩
      exact congrArg Mutex.holding hrestarted.mutex
  refine ⟨⟨hafter.length, hafter.exclusive, hafter.settled, ?_, ?_, ?_⟩, word, hheader⟩
  · rw [hheader, Header.hasFeeder_ofSession]
    intro hfeeder
    cases hfeeder
  · intro id c w _ _
    rw [hheader]
    rfl
  · -- nobody has the lock, so no frame is begun
    intro id c t next hclient hholder hliving _
    exact absurd ⟨c, hclient, hholder, hliving⟩ (hafter.exclusive.not_hasLock hfree id t)

end Exchange

/-- A writer is there only where there is a session, so nobody touches the memory of a region
before one is begun. -/
theorem Deed.Valid.memory_eq {d : Deed} (hvalid : d.Valid) (hsound : d.before.Sound)
    (hmagic : d.before.header.magic ≠ headerMagic) (hdrawn : d.drawn = []) :
    d.after.memory = d.before.memory := by
  have hhappens := (Exchange.happens hsound.settled hsound.length hvalid).2
  have hwriter {id : Nat} {c : Client} {w : Writer} (hclient : d.before.clients.get? id = some c)
      (hbody : c.body = .writer w) : False := hmagic (hsound.magic id c w hclient hbody)
  -- whoever does more than look draws a session first
  have hrenewed {gpu : UInt64} {s s' : Site} (h : s.Renewed gpu s')
      (hhost : s.host = d.before.host) (hafter : d.after.host = s'.host) : False := by
    obtain ⟨k, hfirst, hlast, -⟩ := h.header
    rw [hhost] at hfirst
    have hmem := mem_drawn hfirst (by rw [hafter, hlast])
    rw [hdrawn] at hmem
    cases hmem
  have hlooked {book : LockBook} {s' : Site} (hafter : d.after.host = s'.host)
      (hsite : (d.before.site d.thread book).Still s' ∨
        ∃ gpu, (d.before.site d.thread book).Restarted gpu s') :
      s'.memory = d.before.memory := by
    rcases hsite with hstill | ⟨gpu, hrestarted⟩
    · exact hstill.memory
    · exact (hrenewed hrestarted.renewed rfl hafter).elim
  generalize d.move = move at hhappens
  generalize d.answer = answer at hhappens
  generalize d.after = y at hhappens hrenewed hlooked ⊢
  cases hhappens with
  | called hclient _ heffect =>
    cases heffect with
    | still _ _ hstill => exact hstill.memory
    | recovered _ _ hrestarted => exact hlooked rfl (.inr ⟨_, hrestarted⟩)
    | inherited _ _ h => exact (hrenewed h rfl rfl).elim
    | begun hbody => exact (hwriter hclient hbody).elim
    | submitted hbody => exact (hwriter hclient hbody).elim
    | emptied hbody => exact (hwriter hclient hbody).elim
    | detached hbody => exact (hwriter hclient hbody).elim
    | _ => rfl
  | attached _ hrestarted => exact hlooked rfl (.inr ⟨_, hrestarted⟩)
  | notAttached _ hsite => exact hlooked rfl (hsite.imp_right fun h => ⟨_, h⟩)
  | closed _ _ _ hsite => exact hlooked rfl (hsite.imp_right fun h => ⟨_, h⟩)
  | _ => rfl

/-- Zeroed memory has no magic. -/
theorem Memory.magic_zeros : (load (Bytes.zeros Header.byteSize)).magic ≠ headerMagic := by
  decide +kernel

/-- Nobody has touched the memory, or there is a header that these steps have led to. -/
def Exchange.Explained (x : Exchange) (deeds : List Deed) : Prop :=
  x.memory = Bytes.zeros Header.byteSize ∨ x.header.Reflects deeds

/-- It begins like this. -/
theorem Exchange.Begins.explained {x : Exchange} (h : x.Begins) : x.Sound ∧ x.Explained [] := by
  cases h with
  | zeroed names host => exact ⟨.start names host, .inl rfl⟩
  | attached memory hmortal hlen hpid hstep =>
    obtain ⟨hsound, word, hheader⟩ := (hmortal.ordered.over hlen).attached hstep
    refine ⟨hsound, .inr ?_⟩
    rw [hheader]
    exact Header.reflects_ofSession _ (Host.sessionOf_ne_zero hpid word) rfl

/-- A step leads on to the next such state. -/
theorem Deed.Valid.explained {deeds : List Deed} {d : Deed} (hvalid : d.Valid)
    (hsound : d.before.Sound) (hpid : d.thread.pid ≠ 0)
    (hmade : ∀ id frame, d.Submits id frame → frame.config.Made)
    (h : d.before.Explained deeds) : d.after.Explained (deeds ++ [d]) := by
  rcases h with hzero | hreflects
  · by_cases hdrawn : d.drawn = []
    · have hmagic : d.before.header.magic ≠ headerMagic := by
        rw [Exchange.header, hzero]
        exact Memory.magic_zeros
      exact .inl ((hvalid.memory_eq hsound hmagic hdrawn).trans hzero)
    · obtain ⟨gpu, k, -, -, hheader⟩ := hvalid.begins hsound hdrawn
      refine .inr ?_
      rw [hheader]
      exact Header.reflects_ofSession gpu (Host.sessionOf_ne_zero hpid _)
        (sinceSession_drawn hdrawn)
  · exact .inr (hvalid.reflects hsound hpid hmade hreflects)

/-- A run leads to such states only. -/
theorem Run.explained {x y : Exchange} {deeds : List Deed} (hrun : Run x deeds y)
    (hsound : x.Sound) (hexplained : x.Explained []) (hpids : ∀ d ∈ deeds, d.thread.pid ≠ 0)
    (hmade : ∀ d ∈ deeds, ∀ id frame, d.Submits id frame → frame.config.Made) :
    y.Explained deeds := by
  induction hrun with
  | nil => exact hexplained
  | @snoc deeds d hrun hvalid ih =>
    rw [List.forall_mem_append] at hpids hmade
    have hlast := List.mem_singleton.mpr (Eq.refl d)
    have hbefore := ih hpids.1 hmade.1
    exact hvalid.explained (hrun.sound hsound) (hpids.2 d hlast) (hmade.2 d hlast) hbefore

/-- After every run the memory is still all zero, or its header is one of a session, in which there
is a feeder exactly where a frame was published. -/
theorem Run.headerReflects {x y : Exchange} {deeds : List Deed} (hbegins : x.Begins)
    (hrun : Run x deeds y) (hpids : ∀ d ∈ deeds, d.thread.pid ≠ 0)
    (hmade : ∀ d ∈ deeds, ∀ id frame, d.Submits id frame → frame.config.Made)
    (hunwrapped : Unwrapped deeds) :
    y.memory = Bytes.zeros Header.byteSize ∨
      (y.header.Reflects deeds ∧ (y.header.flags = feederAttached ↔ y.header.frame ≠ 0)) := by
  obtain ⟨hsound, hexplained⟩ := hbegins.explained
  rcases hrun.explained hsound hexplained hpids hmade with hzero | hreflects
  · exact .inl hzero
  · exact .inr ⟨hreflects, hreflects.attached_iff hunwrapped⟩

/-- The region of the sample, full of bytes without a meaning. -/
def Exchange.garbage : Exchange :=
  { sample with memory := List.replicate Header.byteSize 0xff }

/-- A writer begins a session in it all the same, and a frame is published and read. -/
theorem Run.headerReflects_garbage : ∃ x deeds y,
    Exchange.garbage.step ⟨7, 0⟩ (.openWriter 0 5) = some (.done, x) ∧ x.Begins ∧
    x.play Exchange.sampleScript.tail = some (deeds, y) ∧ (∀ d ∈ deeds, d.thread.pid ≠ 0) ∧
    (∀ d ∈ deeds, ∀ id frame, d.Submits id frame → frame.config.Made) ∧ Unwrapped deeds ∧
    y.header.flags = feederAttached ∧
    (y.memory = Bytes.zeros Header.byteSize ∨
      (y.header.Reflects deeds ∧ (y.header.flags = feederAttached ↔ y.header.frame ≠ 0))) := by
  have hfacts : (Exchange.garbage.step ⟨7, 0⟩ (.openWriter 0 5)).bind (fun opened =>
      (opened.2.play Exchange.sampleScript.tail).map fun played =>
        (opened.1, played.2.header.flags)) = some (.done, feederAttached) := by
    decide +kernel
  obtain ⟨⟨answer, x⟩, hstep, hfacts⟩ := Option.bind_eq_some_iff.mp hfacts
  obtain ⟨⟨deeds, y⟩, hplay, hfacts⟩ := Option.map_eq_some_iff.mp hfacts
  obtain ⟨hanswer, hflags⟩ := Prod.mk.inj hfacts
  have hdone : answer = .done := hanswer
  subst hdone
  have hmortal : Mortal Exchange.sample := .start _ _ _ (by decide +kernel)
  have hbegins : x.Begins := .attached (List.replicate Header.byteSize 0xff) hmortal
    (Nat.le_of_eq List.length_replicate.symm) (by decide) hstep
  -- the steps are those of the script, and all of them are made by one thread
  have hmoves {d : Deed} (hmem : d ∈ deeds) : (d.thread, d.move) ∈ Exchange.sampleScript.tail := by
    rw [← Run.map_of_play hplay]
    exact List.mem_map_of_mem (f := fun d : Deed => (d.thread, d.move)) hmem
  have hpids : ∀ d ∈ deeds, d.thread.pid ≠ 0 := by
    intro d hmem
    have hthread : ∀ entry ∈ Exchange.sampleScript.tail, entry.1.pid ≠ 0 := by decide
    exact hthread _ (hmoves hmem)
  have hmade : ∀ d ∈ deeds, ∀ id frame, d.Submits id frame → frame.config.Made := by
    intro d hmem id frame hsubmits
    have hscript := hmoves hmem
    rw [hsubmits.1] at hscript
    obtain ⟨-, -, hframe⟩ : d.thread = ⟨7, 0⟩ ∧ id = 0 ∧ frame = Exchange.sampleFrame := by
      simpa [Exchange.sampleScript] using hscript
    rw [hframe]
    exact FrameConfig.made_iff.mpr rfl
  have hunwrapped : Unwrapped deeds := by
    refine unwrapped_of_length ?_
    have hlength := congrArg List.length (Run.map_of_play hplay)
    rw [List.length_map] at hlength
    rw [hlength]
    decide
  exact ⟨x, deeds, y, hstep, hbegins, hplay, hpids, hmade, hunwrapped, hflags,
    Run.headerReflects hbegins (Run.of_play hplay) hpids hmade hunwrapped⟩

end FrameExchange
