import FrameExchange.Region.Name

/-!
# Names that keep programs apart

A name is the product, a separator, the version and the header size, and it is read back from its
end: the digits of the size hold no `s`, those of a version's part no point, and none of them a
separator. So nothing in a product, which may be any text, can pass for another version or size.

- `RegionNames.spelled` — the characters of a name; `RegionNames.spelled_inj` — what they tell.
- `RegionNames.of_mapping_iff`, `RegionNames.of_lock_iff`, `RegionNames.mapping_ne_lock` — the
  names as they are written.
- `RegionNames.flatMapping_iff`, `RegionNames.flatLock_iff`, `RegionNames.flatMapping_ne_flatLock` —
  the same of the names as the system takes them.
-/

namespace FrameExchange

/-! ## Digits -/

namespace Digits

variable {base : Nat}

/-- Every character of a number is one of the digits of its base. -/
theorem mem_toDigits (hbase : 1 < base) {n : Nat} {c : Char} (h : c ∈ Nat.toDigits base n) :
    ∃ digit < base, c = digit.digitChar := by
  induction n using Nat.strongRecOn with
  | ind n ih =>
    rw [Nat.toDigits_eq_if hbase] at h
    split at h
    · next hsmall => exact ⟨n, hsmall, List.mem_singleton.mp h⟩
    · next hlarge =>
      rcases List.mem_append.mp h with hfront | hlast
      · exact ih (n / base) (Nat.div_lt_self (by omega) hbase) hfront
      · exact ⟨n % base, Nat.mod_lt _ (by omega), List.mem_singleton.mp hlast⟩

/-- The digits up to fifteen are different characters. -/
theorem digitChar_inj {m n : Nat} (hm : m < 16) (hn : n < 16) (h : m.digitChar = n.digitChar) :
    m = n := by
  have hall : ∀ a b : Fin 16, a.val.digitChar = b.val.digitChar → a = b := by decide
  exact congrArg Fin.val (hall ⟨m, hm⟩ ⟨n, hn⟩ h)

/-- A number is known by its digits. -/
theorem toDigits_inj (hbase : 1 < base) (hsixteen : base ≤ 16) {m n : Nat}
    (h : Nat.toDigits base m = Nat.toDigits base n) : m = n := by
  induction m using Nat.strongRecOn generalizing n with
  | ind m ih =>
    have hlast (k : Nat) : k % base < 16 := Nat.lt_of_lt_of_le (Nat.mod_lt _ (by omega)) hsixteen
    rw [Nat.toDigits_eq_if hbase, Nat.toDigits_eq_if (n := n) hbase] at h
    have hne (k : Nat) : Nat.toDigits base k ≠ [] := Nat.toDigits_ne_nil
    by_cases hm : m < base
    · by_cases hn : n < base
      · rw [if_pos hm, if_pos hn] at h
        exact digitChar_inj (by omega) (by omega) (List.head_eq_of_cons_eq h)
      · rw [if_pos hm, if_neg hn] at h
        have hlength := congrArg List.length h
        have := List.length_pos_iff.mpr (hne (n / base))
        simp only [List.length_append, List.length_singleton] at hlength
        omega
    · by_cases hn : n < base
      · rw [if_neg hm, if_pos hn] at h
        have hlength := congrArg List.length h
        have := List.length_pos_iff.mpr (hne (m / base))
        simp only [List.length_append, List.length_singleton] at hlength
        omega
      · rw [if_neg hm, if_neg hn] at h
        obtain ⟨hfront, hdigit⟩ := List.append_inj' h rfl
        have hdiv := ih (m / base) (Nat.div_lt_self (by omega) hbase) hfront
        have hmod := digitChar_inj (hlast m) (hlast n) (List.head_eq_of_cons_eq hdigit)
        rw [← Nat.div_add_mod m base, ← Nat.div_add_mod n base, hdiv, hmod]

/-- A text is cut in one way at the last place of a character. -/
theorem split_last {c : Char} {front front' rest rest' : List Char} (hrest : c ∉ rest)
    (hrest' : c ∉ rest') (h : front ++ c :: rest = front' ++ c :: rest') :
    front = front' ∧ rest = rest' := by
  rcases List.append_eq_append_iff.mp h with ⟨between, hfront, htail⟩ | ⟨between, hfront, htail⟩
  · cases between with
    | nil => exact ⟨by simpa using hfront.symm, by simpa using htail⟩
    | cons d between =>
      simp only [List.cons_append, List.cons.injEq] at htail
      exact absurd (by rw [htail.2]; simp) hrest
  · cases between with
    | nil => exact ⟨by simpa using hfront, by simpa using htail.symm⟩
    | cons d between =>
      simp only [List.cons_append, List.cons.injEq] at htail
      exact absurd (by rw [htail.2]; simp) hrest'

/-- The digits of a number in base ten are nothing else. -/
theorem not_mem_decimal {c : Char} (hc : c.isDigit = false) (n : Nat) : c ∉ Nat.toDigits 10 n := by
  intro h
  have hdigit := Nat.isDigit_of_mem_toDigits (by decide) (by decide) h
  rw [hc] at hdigit
  cases hdigit

theorem not_mem_hex {c : Char} (hc : ∀ digit : Fin 16, c ≠ digit.val.digitChar) (n : Nat) :
    c ∉ Nat.toDigits 16 n := by
  intro h
  obtain ⟨digit, hlt, heq⟩ := mem_toDigits (by decide) h
  exact hc ⟨digit, hlt⟩ heq

end Digits

open Digits

namespace RegionNames

/-! ## Names as they are written -/

/-- The characters of a name, from the product and the separator on. -/
def spelled (front : List Char) (separator : Char) (v : SoftwareVersion) (size : Nat) :
    List Char :=
  front ++ separator :: Nat.toDigits 10 v.major.toNat ++ '.' :: Nat.toDigits 10 v.minor.toNat ++
    '.' :: Nat.toDigits 10 v.patch.toNat ++ '.' :: Nat.toDigits 10 v.build.toNat ++ ['-'] ++
    's' :: Nat.toDigits 16 size

section Spelled

variable {front front' : List Char} {separator : Char} {v w : SoftwareVersion} {m n : Nat}

/-- Read from its end, a name tells everything that it was made of. -/
theorem spelled_inj (hseparator : separator.isDigit = false)
    (h : spelled front separator v m = spelled front' separator w n) :
    front = front' ∧ v = w ∧ m = n := by
  have hs : ∀ k, 's' ∉ Nat.toDigits 16 k := not_mem_hex (by decide)
  have hpoint : ∀ k, '.' ∉ Nat.toDigits 10 k := not_mem_decimal (by decide)
  have hdigits : ∀ {a b : UInt32}, Nat.toDigits 10 a.toNat = Nat.toDigits 10 b.toNat → a = b :=
    fun heq => UInt32.toNat_inj.mp (toDigits_inj (by decide) (by decide) heq)
  obtain ⟨hversion, hsize⟩ := split_last (hs _) (hs _) h
  obtain ⟨hpatch, hbuild⟩ := split_last (hpoint _) (hpoint _) (List.append_cancel_right hversion)
  obtain ⟨hminor, hpatch⟩ := split_last (hpoint _) (hpoint _) hpatch
  obtain ⟨hmajor, hminor⟩ := split_last (hpoint _) (hpoint _) hminor
  obtain ⟨hfront, hmajor⟩ := split_last (not_mem_decimal hseparator _)
    (not_mem_decimal hseparator _) hmajor
  refine ⟨hfront, ?_, toDigits_inj (by decide) (by decide) hsize⟩
  cases v
  cases w
  rw [SoftwareVersion.mk.injEq]
  exact ⟨hdigits hmajor, hdigits hminor, hdigits hpatch, hdigits hbuild⟩

/-- No name is another one with the suffix of a lock: it ends in a digit. -/
theorem spelled_ne_suffixed :
    spelled front separator v m ≠ spelled front' separator w n ++ lockSuffix.toList := by
  intro h
  have hsuffixed : spelled front' separator w n ++ lockSuffix.toList =
      (front' ++ separator :: Nat.toDigits 10 w.major.toNat ++ '.' ::
        Nat.toDigits 10 w.minor.toNat ++ '.' :: Nat.toDigits 10 w.patch.toNat ++ '.' ::
        Nat.toDigits 10 w.build.toNat ++ ['-']) ++
        's' :: (Nat.toDigits 16 n ++ lockSuffix.toList) := by
    simp only [spelled, List.append_assoc, List.cons_append]
  have hs : ∀ k, 's' ∉ Nat.toDigits 16 k := not_mem_hex (by decide)
  have hrest : 's' ∉ Nat.toDigits 16 n ++ lockSuffix.toList := by
    rw [List.mem_append]
    exact not_or.mpr ⟨hs n, by decide⟩
  obtain ⟨-, hsize⟩ := split_last (hs m) hrest (h.trans hsuffixed)
  have hx : 'x' ∈ Nat.toDigits 16 m := by
    rw [hsize]
    exact List.mem_append_right _ (by decide)
  exact not_mem_hex (by decide) m hx

end Spelled

theorem toList_version (v : SoftwareVersion) : v.text.toList =
    Nat.toDigits 10 v.major.toNat ++ '.' :: Nat.toDigits 10 v.minor.toNat ++
      '.' :: Nat.toDigits 10 v.patch.toNat ++ '.' :: Nat.toDigits 10 v.build.toNat := by
  have hword (a : UInt32) : (toString a).toList = Nat.toDigits 10 a.toNat := Nat.toList_repr
  simp only [SoftwareVersion.text, String.toList_append, hword, List.append_assoc]
  rfl

theorem toList_hexNumber (n : Nat) : (Bytes.hexNumber 1 n).toList = Nat.toDigits 16 n := by
  have hlength : 1 - (Nat.toDigits 16 n).length = 0 := by
    have := List.length_pos_iff.mpr (Nat.toDigits_ne_nil (b := 16) (n := n))
    omega
  simp only [Bytes.hexNumber, hlength, String.toList_ofList, List.replicate_zero, List.nil_append]

theorem toList_mapping (p : String) (v : SoftwareVersion) (n : Nat) :
    (of p v n).mapping.toList = spelled p.toList '/' v n := by
  simp only [of, String.toList_append, toList_version, toList_hexNumber, spelled,
    List.append_assoc]
  rfl

theorem toList_lock (p : String) (v : SoftwareVersion) (n : Nat) :
    (of p v n).lock.toList = spelled p.toList '/' v n ++ lockSuffix.toList := by
  rw [← toList_mapping, ← String.toList_append]
  rfl

section Triples

variable {p q : String} {v w : SoftwareVersion} {m n : Nat}

/-- A mapping is named by one product, version and size only. -/
theorem of_mapping_iff :
    (of p v m).mapping = (of q w n).mapping ↔ p = q ∧ v = w ∧ m = n := by
  refine ⟨fun h => ?_, fun ⟨hproduct, hversion, hsize⟩ => by rw [hproduct, hversion, hsize]⟩
  rw [← String.toList_inj, toList_mapping, toList_mapping] at h
  obtain ⟨hproduct, hversion, hsize⟩ := spelled_inj (by decide) h
  exact ⟨String.toList_inj.mp hproduct, hversion, hsize⟩

/-- So is a lock. -/
theorem of_lock_iff : (of p v m).lock = (of q w n).lock ↔ p = q ∧ v = w ∧ m = n := by
  rw [← String.toList_inj, toList_lock, toList_lock, List.append_left_inj, ← toList_mapping,
    ← toList_mapping, String.toList_inj, of_mapping_iff]

theorem mapping_ne_lock : (of p v m).mapping ≠ (of q w n).lock := by
  rw [ne_eq, ← String.toList_inj, toList_mapping, toList_lock]
  exact spelled_ne_suffixed

end Triples

end RegionNames

/-! ## Names as the system takes them -/

/-- The name that the system would be given for this one, accepted or not. -/
def flatName (name : String) : String := "/" ++ flatten name

/-- A name that is accepted is given to the system as it is, but for its separators. -/
theorem osName_ok {name flat : String} (h : osName name = .ok flat) : flat = flatName name := by
  unfold osName at h
  dsimp only at h
  split at h
  · cases h
  · split at h
    · cases h
    · cases h
      rfl

namespace RegionNames

/-- Digits are no separators, so the number stays as it is. -/
theorem map_digits (base : Nat) (hbase : 1 < base) (hsixteen : base ≤ 16) (n : Nat) :
    (Nat.toDigits base n).map (fun c => if c = '/' ∨ c = '\\' then '_' else c) =
      Nat.toDigits base n := by
  refine (List.map_congr_left fun c hc => ?_).trans (List.map_id _)
  obtain ⟨digit, hdigit, rfl⟩ := mem_toDigits hbase hc
  have hall : ∀ d : Fin 16, ¬(d.val.digitChar = '/' ∨ d.val.digitChar = '\\') := by decide
  exact if_neg (hall ⟨digit, by omega⟩)

/-- The only separator of a name, besides those of the product, is the one behind it. -/
theorem toList_flatMapping (p : String) (v : SoftwareVersion) (n : Nat) :
    (flatName (of p v n).mapping).toList = spelled ('/' :: (flatten p).toList) '_' v n := by
  have hten := map_digits 10 (by decide) (by decide)
  have hsixteen := map_digits 16 (by decide) (by decide)
  rw [flatName, String.toList_append, flatten, flatten, String.toList_map, toList_mapping,
    String.toList_map]
  simp only [spelled, List.map_append, List.map_cons, hten, hsixteen]
  rfl

theorem flatName_lock (p : String) (v : SoftwareVersion) (n : Nat) :
    flatName (of p v n).lock = flatName (of p v n).mapping ++ lockSuffix := by
  rw [← String.toList_inj]
  simp only [flatName, flatten, of, String.toList_append, String.toList_map, List.map_append,
    List.append_assoc]
  rfl

section Triples

variable {p q : String} {v w : SoftwareVersion} {m n : Nat}

/-- Separators apart, the system knows a mapping by its product, version and size. -/
theorem flatMapping_iff : flatName (of p v m).mapping = flatName (of q w n).mapping ↔
    v = w ∧ m = n ∧ flatten p = flatten q := by
  rw [← String.toList_inj, toList_flatMapping, toList_flatMapping]
  refine ⟨fun h => ?_, fun ⟨hversion, hsize, hproduct⟩ => by rw [hproduct, hversion, hsize]⟩
  obtain ⟨hproduct, hversion, hsize⟩ := spelled_inj (by decide) h
  exact ⟨hversion, hsize, String.toList_inj.mp (List.tail_eq_of_cons_eq hproduct)⟩

/-- Products that differ in their separators only. -/
example : flatName (of "a/b" .current 1408).mapping =
    flatName (of "a_b" .current 1408).mapping := by
  decide +kernel

theorem flatLock_iff : flatName (of p v m).lock = flatName (of q w n).lock ↔
    v = w ∧ m = n ∧ flatten p = flatten q := by
  rw [flatName_lock, flatName_lock, ← flatMapping_iff, ← String.toList_inj, String.toList_append,
    String.toList_append, List.append_left_inj, String.toList_inj]

theorem flatMapping_ne_flatLock : flatName (of p v m).mapping ≠ flatName (of q w n).lock := by
  rw [flatName_lock, ne_eq, ← String.toList_inj, String.toList_append, toList_flatMapping,
    toList_flatMapping]
  exact spelled_ne_suffixed

end Triples

end RegionNames

end FrameExchange
