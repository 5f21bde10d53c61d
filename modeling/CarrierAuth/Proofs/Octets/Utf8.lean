import CarrierAuth.Octets

/-
  The octets of texts — an ASCII character is one octet, its code; every other
  character is made of octets above the ASCII range. So a test that looks at the
  octets of a text sees an ASCII character if and only if there is one.

  A cut after a number of octets succeeds exactly where a text of that many octets
  stands in front, and fails exactly where the text is shorter or the place lies inside a
  character.
-/
namespace CarrierAuth

@[simp] theorem octetsOf_nil : octetsOf [] = [] := rfl

@[simp] theorem octetsOf_cons (c : Char) (cs : List Char) :
    octetsOf (c :: cs) = String.utf8EncodeChar c ++ octetsOf cs := rfl

theorem octets_append (s t : String) : octets (s ++ t) = octets s ++ octets t := by
  rw [octets, String.toList_append, octetsOf, List.flatMap_append]
  rfl

theorem octetLength_append (s t : String) :
    octetLength (s ++ t) = octetLength s + octetLength t := by
  rw [octetLength, octets_append, List.length_append]
  rfl

theorem octets_injective {s t : String} (h : octets s = octets t) : s = t := by
  have hencoded : s.toList.utf8Encode = t.toList.utf8Encode := congrArg List.toByteArray h
  have hdecoded := congrArg ByteArray.utf8Decode? hencoded
  rw [List.utf8Decode?_utf8Encode, List.utf8Decode?_utf8Encode] at hdecoded
  exact String.toList_injective (congrArg Array.toList (Option.some.inj hdecoded))

theorem append_inj_of_octetLength {s s' t t' : String} (hlength : octetLength t = octetLength t')
    (h : s ++ t = s' ++ t') : s = s' ∧ t = t' := by
  have hoctets := congrArg octets h
  rw [octets_append, octets_append] at hoctets
  obtain ⟨hfront, hback⟩ := List.append_inj' hoctets hlength
  exact ⟨octets_injective hfront, octets_injective hback⟩

/-! ## ASCII -/

theorem toNat_ofNat_of_ascii {c : Char} (h : c.toNat < 128) :
    (UInt8.ofNat c.toNat).toNat = c.toNat := by
  rw [UInt8.toNat_ofNat']
  omega

theorem toNat_charOfNat_of_ascii {n : Nat} (h : n < 128) : (Char.ofNat n).toNat = n := by
  have hvalid : n.isValidChar := Or.inl (by omega)
  rw [Char.ofNat, dif_pos hvalid]
  rfl

theorem utf8EncodeChar_of_ascii {c : Char} (h : c.toNat < 128) :
    String.utf8EncodeChar c = [UInt8.ofNat c.toNat] := by
  have hval : c.val.toNat ≤ 0x7f := Nat.le_of_lt_succ h
  unfold String.utf8EncodeChar
  exact if_pos hval

/-- What holds of every ASCII code holds of every ASCII character. -/
theorem forall_ascii {p : Char → Prop} (h : ∀ n < 128, p (Char.ofNat n)) {c : Char}
    (hc : c.toNat < 128) : p c := by
  have hn := h c.toNat hc
  rwa [Char.ofNat_toNat] at hn

theorem octetsOf_of_ascii {cs : List Char} (h : ∀ c ∈ cs, c.toNat < 128) :
    octetsOf cs = cs.map fun c => UInt8.ofNat c.toNat := by
  induction cs with
  | nil => rfl
  | cons c cs ih =>
    have ih := ih fun d hd => h d (List.mem_cons_of_mem c hd)
    rw [octetsOf_cons, utf8EncodeChar_of_ascii (h c List.mem_cons_self), ih]
    rfl

theorem octetLength_of_ascii {s : String} (h : ∀ c ∈ s.toList, c.toNat < 128) :
    octetLength s = s.length := by
  rw [octetLength, octets, octetsOf_of_ascii h, List.length_map, String.length_toList]

theorem toNat_lt_of_isDigit {c : Char} (h : c.isDigit = true) : c.toNat < 128 := by
  simp only [Char.isDigit, Bool.and_eq_true, decide_eq_true_eq] at h
  have hle : c.val.toNat ≤ 57 := h.2
  exact Nat.lt_of_le_of_lt hle (by decide)

theorem octetLength_of_isDigit {s : String} (h : ∀ c ∈ s.toList, c.isDigit = true) :
    octetLength s = s.length := by
  apply octetLength_of_ascii
  intro c hc
  exact toNat_lt_of_isDigit (h c hc)

/-- Digits are cut after as many characters as octets. -/
theorem octetLength_ofList_take {ds : List Char} (hdigits : ∀ c ∈ ds, c.isDigit = true) {n : Nat}
    (hn : n ≤ ds.length) : octetLength (String.ofList (ds.take n)) = n := by
  rw [octetLength_of_isDigit, String.length_ofList, List.length_take, Nat.min_eq_left hn]
  intro c hc
  rw [String.toList_ofList] at hc
  exact hdigits c (List.mem_of_mem_take hc)

/-- Outside ASCII no octet looks like an ASCII character. -/
theorem le_toNat_of_mem_utf8EncodeChar {c : Char} (h : 128 ≤ c.toNat) {b : UInt8}
    (hb : b ∈ String.utf8EncodeChar c) : 128 ≤ b.toNat := by
  have hval : ¬ c.val.toNat ≤ 0x7f := Nat.not_le_of_lt h
  unfold String.utf8EncodeChar at hb
  simp only [hval, if_false] at hb
  split at hb
  · simp only [List.mem_cons, List.not_mem_nil, or_false] at hb
    rcases hb with rfl | rfl <;> rw [UInt8.toNat_ofNat'] <;> omega
  · split at hb
    · simp only [List.mem_cons, List.not_mem_nil, or_false] at hb
      rcases hb with rfl | rfl | rfl <;> rw [UInt8.toNat_ofNat'] <;> omega
    · simp only [List.mem_cons, List.not_mem_nil, or_false] at hb
      rcases hb with rfl | rfl | rfl | rfl <;> rw [UInt8.toNat_ofNat'] <;> omega

/-! ## Cuts -/

theorem cutChars_of_append : ∀ (before after : List Char),
    cutChars (octetsOf before).length (before ++ after) = some (before, after)
  | [], after => by simp [cutChars]
  | c :: before, after => by
    have hpos := c.utf8Size_pos
    have hlen : (octetsOf (c :: before)).length = c.utf8Size + (octetsOf before).length := by
      rw [octetsOf_cons, List.length_append, String.length_utf8EncodeChar]
    obtain ⟨n, hn⟩ : ∃ n, c.utf8Size + (octetsOf before).length = n + 1 :=
      ⟨c.utf8Size + (octetsOf before).length - 1, by omega⟩
    have hrest : n + 1 - c.utf8Size = (octetsOf before).length := by omega
    rw [hlen, hn, List.cons_append, cutChars, if_pos (by omega), hrest,
      cutChars_of_append before after]
    rfl

/-- A cut gives the characters in front that have as many octets. -/
theorem length_of_cutChars : ∀ (n : Nat) (cs before after : List Char),
    cutChars n cs = some (before, after) → (octetsOf before).length = n
  | 0, cs, before, after, h => by
    simp only [cutChars, Option.some.injEq, Prod.mk.injEq] at h
    rw [← h.1]; rfl
  | _ + 1, [], _, _, h => by simp [cutChars] at h
  | n + 1, c :: cs, before, after, h => by
    simp only [cutChars] at h
    split at h
    · obtain ⟨⟨front, back⟩, hcut, hpair⟩ := Option.map_eq_some_iff.mp h
      simp only [Prod.mk.injEq] at hpair
      have ih := length_of_cutChars _ _ _ _ hcut
      rw [← hpair.1, octetsOf_cons, List.length_append, String.length_utf8EncodeChar, ih]
      omega
    · contradiction

theorem cutChars_eq_some_iff {n : Nat} {cs before after : List Char} :
    cutChars n cs = some (before, after) ↔
      cs = before ++ after ∧ (octetsOf before).length = n := by
  refine ⟨?_, ?_⟩
  · intro h
    exact ⟨cutChars_append _ _ _ _ h, length_of_cutChars _ _ _ _ h⟩
  · intro h
    obtain ⟨rfl, rfl⟩ := h
    exact cutChars_of_append before after

/-- A text can be cut after `n` octets exactly where a text of `n` octets stands in
front. -/
theorem cut_eq_some_iff {n : Nat} {s before after : String} :
    cut n s = some (before, after) ↔ s = before ++ after ∧ octetLength before = n := by
  rw [cut, Option.map_eq_some_iff]
  refine ⟨?_, ?_⟩
  · intro h
    obtain ⟨⟨front, back⟩, hcut, hpair⟩ := h
    obtain ⟨hs, hlen⟩ := cutChars_eq_some_iff.mp hcut
    simp only [Prod.mk.injEq] at hpair
    obtain ⟨rfl, rfl⟩ := hpair
    refine ⟨?_, ?_⟩
    · rw [← String.ofList_append, ← hs, String.ofList_toList]
    · rw [octetLength, octets, String.toList_ofList, hlen]
  · intro h
    obtain ⟨rfl, hlen⟩ := h
    refine ⟨(before.toList, after.toList), cutChars_eq_some_iff.mpr ⟨?_, hlen⟩, ?_⟩
    · rw [String.toList_append]
    · show (String.ofList before.toList, String.ofList after.toList) = (before, after)
      rw [String.ofList_toList, String.ofList_toList]

theorem exists_eq_append_of_le {s front front' back back' : String} (h : s = front ++ back)
    (h' : s = front' ++ back') (hlength : octetLength front < octetLength front') :
    ∃ mid, front' = front ++ mid := by
  have happend : front.toList ++ back.toList = front'.toList ++ back'.toList := by
    rw [← String.toList_append, ← String.toList_append, ← h, ← h']
  rcases List.append_eq_append_iff.mp happend with ⟨mid, hmid, -⟩ | ⟨mid, hmid, -⟩
  · refine ⟨String.ofList mid, String.toList_injective ?_⟩
    rw [String.toList_append, String.toList_ofList, hmid]
  · have hfront : front = front' ++ String.ofList mid := by
      apply String.toList_injective
      rw [String.toList_append, String.toList_ofList, hmid]
    rw [hfront, octetLength_append] at hlength
    omega

/-- Whether the place after `n` octets lies inside a character. -/
def Straddled (n : Nat) (cs : List Char) : Prop :=
  ∃ before c after, cs = before ++ c :: after ∧ (octetsOf before).length < n ∧
    n < (octetsOf before).length + c.utf8Size

theorem straddled_cons_of_lt {n : Nat} {c : Char} {cs : List Char} (hpos : 0 < n)
    (h : n < c.utf8Size) : Straddled n (c :: cs) := by
  refine ⟨[], c, cs, rfl, hpos, ?_⟩
  rw [octetsOf_nil, List.length_nil, Nat.zero_add]
  exact h

theorem straddled_cons_iff {n : Nat} {c : Char} {cs : List Char} (h : c.utf8Size ≤ n) :
    Straddled n (c :: cs) ↔ Straddled (n - c.utf8Size) cs := by
  refine ⟨?_, ?_⟩
  · rintro ⟨before, d, after, hcs, hbefore, hafter⟩
    cases before with
    | nil =>
      obtain ⟨rfl, -⟩ := List.cons.inj hcs
      rw [octetsOf_nil, List.length_nil] at hafter
      omega
    | cons c' before =>
      obtain ⟨rfl, rfl⟩ := List.cons.inj hcs
      rw [octetsOf_cons, List.length_append, String.length_utf8EncodeChar] at hbefore hafter
      exact ⟨before, d, after, rfl, by omega, by omega⟩
  · rintro ⟨before, d, after, rfl, hbefore, hafter⟩
    refine ⟨c :: before, d, after, rfl, ?_, ?_⟩
    · rw [octetsOf_cons, List.length_append, String.length_utf8EncodeChar]
      omega
    · rw [octetsOf_cons, List.length_append, String.length_utf8EncodeChar]
      omega

theorem cutChars_eq_none_iff {n : Nat} {cs : List Char} :
    cutChars n cs = none ↔ (octetsOf cs).length < n ∨ Straddled n cs := by
  fun_induction cutChars n cs with
  | case1 cs =>
    refine ⟨fun h => ?_, ?_⟩
    · contradiction
    · rintro (hshort | ⟨before, c, after, -, hbefore, -⟩) <;> omega
  | case2 n => simp
  | case3 n c cs hfits ih =>
    rw [Option.map_eq_none_iff, ih, straddled_cons_iff hfits, octetsOf_cons, List.length_append,
      String.length_utf8EncodeChar]
    exact or_congr_left (by omega)
  | case4 n c cs hfits =>
    refine ⟨fun _ => Or.inr ?_, fun _ => rfl⟩
    exact straddled_cons_of_lt (Nat.succ_pos n) (Nat.lt_of_not_le hfits)

/-- A text cannot be cut after `n` octets when it is shorter, or when the place lies inside a
character. -/
theorem cut_eq_none_iff {n : Nat} {s : String} :
    cut n s = none ↔ octetLength s < n ∨ Straddled n s.toList := by
  rw [cut, Option.map_eq_none_iff, cutChars_eq_none_iff]
  rfl

end CarrierAuth
