import FrameExchange.Json.Records
import FrameExchange.Proofs.JsonReaders

/-!
# Values come back from their JSON text

What two programs exchange as JSON is read by one as it was written by the other: the text of a
value tells the value, whatever its numbers and however odd the characters of a product.

- `ReadsBack` — a value is read back from its text, and no other value has that text.
- `jsonRoundTrip` — configurations, versions, spans, keys, sizes, points, rectangles, patterns and
  kinds all come back from their texts.
-/

namespace FrameExchange

open Reading

/-! ## Words -/

namespace Reading

theorem word32_takes (w : UInt32) : Takes word32 (.number w.toNat) :=
  number_takes (by decide) w.toNat_lt_size

theorem word64_takes (w : UInt64) : Takes word64 (.number w.toNat) :=
  number_takes (Nat.le_refl _) w.toNat_lt_size

/-- A reader tells the values that it takes apart by their texts. -/
theorem Takes.inj {reader : Reading Json} {j k : Json} (hj : Takes reader j) (hk : Takes reader k)
    (h : j.render = k.render) : j = k := by
  have hread := hj [] Ends.nil
  rw [h, hk [] Ends.nil] at hread
  exact (Prod.mk.inj (Except.ok.inj hread)).1.symm

/-- A text that is taken is a whole text. -/
theorem Takes.all {reader : Reading Json} {j : Json} (h : Takes reader j) :
    reader.all j.render = .ok j := by
  have hread := h [] Ends.nil
  rw [List.append_nil] at hread
  rw [Reading.all, hread]
  rfl

end Reading

namespace Json

@[simp] theorem word32?_toNat (w : UInt32) : (Json.number w.toNat).word32? = some w := by
  rw [word32?, if_pos w.toNat_lt_size, UInt32.ofNat_toNat]

@[simp] theorem word64?_toNat (w : UInt64) : (Json.number w.toNat).word64? = some w := by
  rw [word64?, if_pos w.toNat_lt_size, UInt64.ofNat_toNat]

end Json

/-! ## What comes back -/

section ReadsBack

variable {α : Type} (toJson : α → Json) (reader : Reading Json) (ofJson? : Json → Option α)

/-- A value comes back from its text. -/
structure ReadsBack (v : α) : Prop where
  /-- The text is read as the value. -/
  read_text : JsonText.read reader ofJson? (toJson v).render = .ok v
  /-- No other value has the same text. -/
  text_unique : ∀ w, (toJson w).render = (toJson v).render → w = v

variable {toJson reader ofJson?}

/-- What the reader takes and the way back turns into the value is read as the value. -/
theorem JsonText.read_render {v : α} (htakes : Takes reader (toJson v))
    (hback : ofJson? (toJson v) = some v) :
    JsonText.read reader ofJson? (toJson v).render = .ok v := by
  rw [JsonText.read, htakes.all]
  simp only [hback]

/-- So a type of which every value is read like this comes back as a whole. -/
theorem ReadsBack.of_takes (htakes : ∀ v, Takes reader (toJson v))
    (hback : ∀ v, ofJson? (toJson v) = some v) (v : α) : ReadsBack toJson reader ofJson? v where
  read_text := JsonText.read_render (htakes v) (hback v)
  text_unique w h := by
    have hjson := (htakes w).inj (htakes v) h
    exact Option.some.inj ((hback w).symm.trans (hjson ▸ hback v))

end ReadsBack

/-! ## Pixels -/

namespace PixelSize

theorem reader_takes (s : PixelSize) : Takes reader s.toJson :=
  openRecord_takes (by decide)
    (.cons ⟨rfl, word32_takes s.width⟩ (.cons ⟨rfl, word32_takes s.height⟩ .nil))

@[simp] theorem ofJson?_toJson (s : PixelSize) : ofJson? s.toJson = some s := by
  simp [ofJson?, toJson, Json.parts]

end PixelSize

namespace PixelPoint

theorem reader_takes (p : PixelPoint) : Takes reader p.toJson :=
  openRecord_takes (by decide)
    (.cons ⟨rfl, word32_takes p.x⟩ (.cons ⟨rfl, word32_takes p.y⟩ .nil))

@[simp] theorem ofJson?_toJson (p : PixelPoint) : ofJson? p.toJson = some p := by
  simp [ofJson?, toJson, Json.parts]

end PixelPoint

namespace PixelRect

theorem reader_takes (r : PixelRect) : Takes reader r.toJson :=
  openRecord_takes (by decide)
    (.cons ⟨rfl, r.origin.reader_takes⟩ (.cons ⟨rfl, r.size.reader_takes⟩ .nil))

@[simp] theorem ofJson?_toJson (r : PixelRect) : ofJson? r.toJson = some r := by
  simp [ofJson?, toJson, Json.parts]

end PixelRect

/-! ## Keys and kinds -/

namespace FrameKey

theorem reader_takes (k : FrameKey) : Takes reader k.toJson :=
  openRecord_takes (by decide)
    (.cons ⟨rfl, word64_takes k.session⟩ (.cons ⟨rfl, word64_takes k.frame⟩ .nil))

@[simp] theorem ofJson?_toJson (k : FrameKey) : ofJson? k.toJson = some k := by
  simp [ofJson?, toJson, Json.parts]

end FrameKey

namespace ConsumerKind

theorem mem_all (k : ConsumerKind) : k ∈ all := by
  cases k <;> decide

theorem reader_takes (k : ConsumerKind) : Takes reader k.toJson :=
  choice_takes (List.mem_map_of_mem k.mem_all)

/-- The kinds have different names. -/
@[simp] theorem ofName?_name (k : ConsumerKind) : ofName? k.name = some k := by
  cases k <;> decide

@[simp] theorem ofJson?_toJson (k : ConsumerKind) : ofJson? k.toJson = some k := by
  simp [ofJson?, toJson, Json.text?]

end ConsumerKind

namespace ConsumerPattern

theorem reader_takes (p : ConsumerPattern) : Takes reader p.toJson := word32_takes p.mask

@[simp] theorem ofJson?_toJson (p : ConsumerPattern) : ofJson? p.toJson = some p := by
  simp [ofJson?, toJson]

end ConsumerPattern

/-! ## Versions -/

namespace SoftwareVersion

theorem reader_takes (v : SoftwareVersion) : Takes reader v.toJson :=
  openRecord_takes (by decide)
    (.cons ⟨rfl, word32_takes v.major⟩ (.cons ⟨rfl, word32_takes v.minor⟩
      (.cons ⟨rfl, word32_takes v.patch⟩ (.cons ⟨rfl, word32_takes v.build⟩ .nil))))

@[simp] theorem ofJson?_toJson (v : SoftwareVersion) : ofJson? v.toJson = some v := by
  simp [ofJson?, toJson, Json.parts]

end SoftwareVersion

/-! ## Spans of time -/

namespace Duration

/-- The parts of a span make the span. -/
theorem of?_parts (d : Duration) : of? d.seconds d.nanoseconds = some d := by
  have hnone : d.nanoseconds.toNat / 1000000000 = 0 := Nat.div_eq_of_lt d.proper
  have hsame : d.nanoseconds % 1000000000 = d.nanoseconds := by
    apply UInt32.toNat_inj.mp
    rw [UInt32.toNat_mod]
    exact Nat.mod_eq_of_lt d.proper
  rw [of?]
  simp only [hnone, Nat.add_zero, d.seconds.toNat_lt_size, if_true, UInt64.ofNat_toNat, hsame]

@[simp] theorem ofJson?_toJson (d : Duration) : ofJson? d.toJson = some d := by
  simp [ofJson?, toJson, Json.parts, ofParts?, of?_parts]

theorem reader_takes (d : Duration) : Takes reader d.toJson :=
  record_takes (show ["secs", "nanos"].Nodup by decide)
    (.cons ⟨rfl, word64_takes d.seconds⟩ (.cons ⟨rfl, word32_takes d.nanoseconds⟩ .nil))
    (Option.isSome_iff_exists.mpr ⟨d, d.ofJson?_toJson⟩)

end Duration

/-! ## Configurations -/

namespace RegionConfig

theorem reader_takes (c : RegionConfig) : Takes reader c.toJson :=
  openRecord_takes (show ["product_id", "version", "mutex_init_timeout"].Nodup by decide)
    (.cons ⟨rfl, text_takes c.product⟩ (.cons ⟨rfl, c.version.reader_takes⟩
      (.cons ⟨rfl, c.lockTimeout.reader_takes⟩ .nil)))

@[simp] theorem ofJson?_toJson (c : RegionConfig) : ofJson? c.toJson = some c := by
  simp [ofJson?, toJson, Json.parts, Json.text?]

end RegionConfig

/-! ## Every type that is exchanged -/

/-- Of the types that are made of numbers and texts every value comes back from its text. -/
structure JsonRoundTrip : Prop where
  /-- Any product, any version and any span of time. -/
  config : ∀ c : RegionConfig,
    ReadsBack RegionConfig.toJson RegionConfig.reader RegionConfig.ofJson? c
  span : ∀ d : Duration, ReadsBack Duration.toJson Duration.reader Duration.ofJson? d
  version : ∀ v : SoftwareVersion,
    ReadsBack SoftwareVersion.toJson SoftwareVersion.reader SoftwareVersion.ofJson? v
  key : ∀ k : FrameKey, ReadsBack FrameKey.toJson FrameKey.reader FrameKey.ofJson? k
  size : ∀ s : PixelSize, ReadsBack PixelSize.toJson PixelSize.reader PixelSize.ofJson? s
  point : ∀ p : PixelPoint, ReadsBack PixelPoint.toJson PixelPoint.reader PixelPoint.ofJson? p
  rect : ∀ r : PixelRect, ReadsBack PixelRect.toJson PixelRect.reader PixelRect.ofJson? r
  pattern : ∀ p : ConsumerPattern,
    ReadsBack ConsumerPattern.toJson ConsumerPattern.reader ConsumerPattern.ofJson? p
  kind : ∀ k : ConsumerKind,
    ReadsBack ConsumerKind.toJson ConsumerKind.reader ConsumerKind.ofJson? k

/-- Configurations and what they consist of, keys, sizes, rectangles, patterns and kinds come back
from their texts, and no two of one type share a text. -/
theorem jsonRoundTrip : JsonRoundTrip where
  config := .of_takes RegionConfig.reader_takes RegionConfig.ofJson?_toJson
  span := .of_takes Duration.reader_takes Duration.ofJson?_toJson
  version := .of_takes SoftwareVersion.reader_takes SoftwareVersion.ofJson?_toJson
  key := .of_takes FrameKey.reader_takes FrameKey.ofJson?_toJson
  size := .of_takes PixelSize.reader_takes PixelSize.ofJson?_toJson
  point := .of_takes PixelPoint.reader_takes PixelPoint.ofJson?_toJson
  rect := .of_takes PixelRect.reader_takes PixelRect.ofJson?_toJson
  pattern := .of_takes ConsumerPattern.reader_takes ConsumerPattern.ofJson?_toJson
  kind := .of_takes ConsumerKind.reader_takes ConsumerKind.ofJson?_toJson

/-- A product of a quote, a backslash, control characters and a character past the first 65536. -/
def oddConfig : RegionConfig :=
  ⟨"a\"\\\n\x01😀", ⟨0, 20, 300, 0xffffffff⟩,
    { seconds := 0xffffffffffffffff, nanoseconds := 999999999 }⟩

theorem jsonRoundTrip_odd : oddConfig.toJson.render =
      "\x7b\"product_id\":\"a\\\"\\\\\\n\\u0001😀\"," ++
      "\"version\":\x7b\"major\":0,\"minor\":20,\"patch\":300,\"build\":4294967295\x7d," ++
      "\"mutex_init_timeout\":\x7b\"secs\":18446744073709551615,\"nanos\":999999999\x7d\x7d" ∧
    ReadsBack RegionConfig.toJson RegionConfig.reader RegionConfig.ofJson? oddConfig :=
  ⟨by decide +kernel, jsonRoundTrip.config oddConfig⟩

end FrameExchange
