import CarrierAuth.Octets.Codec
import CarrierAuth.Proofs.Octets.Utf8
import CarrierAuth.Proofs.Outcome

/-
  Base64 texts — what white space does to the reading of one, which octets may
  stand in one, and that what is written is read.

  What is proved:
    1. `decode_congr` — white space never changes what is read: texts that are equal
       without it (`compact`) are read alike.
    2. `isSymbol_of_decode` — only symbols and padding are read, so what is read,
       white space aside, has one octet for each character.
    3. `decode_encode` — what is written is read back.
-/
namespace CarrierAuth.Base64

/-! ## White space -/

/-- Whether a character is ASCII white space. -/
def IsSpace (c : Char) : Prop := c = ' ' ∨ c = '\t' ∨ c = '\n' ∨ c = '\x0c' ∨ c = '\r'

instance : DecidablePred IsSpace := fun _ => inferInstanceAs (Decidable (_ ∨ _))

/-- A text without its white space. -/
def compact (s : String) : String := String.ofList (s.toList.filter (¬ IsSpace ·))

theorem isSpace_iff {c : Char} :
    IsSpace c ↔ c.toNat = 32 ∨ c.toNat = 9 ∨ c.toNat = 10 ∨ c.toNat = 12 ∨ c.toNat = 13 := by
  have hcode (d : Char) : c = d ↔ c.toNat = d.toNat := by
    refine ⟨fun h => by rw [h], fun h => ?_⟩
    rw [← Char.ofNat_toNat c, h, Char.ofNat_toNat]
  rw [IsSpace, hcode, hcode, hcode, hcode, hcode]
  rfl

theorem isSpace_octet_iff {b : UInt8} :
    isSpace b = true ↔
      b.toNat = 32 ∨ b.toNat = 9 ∨ b.toNat = 10 ∨ b.toNat = 12 ∨ b.toNat = 13 := by
  simp only [isSpace, Bool.or_eq_true, beq_iff_eq, ← UInt8.toNat_inj, or_assoc]
  rfl

/-- The octets of a character are kept or dropped with it. -/
theorem filter_utf8EncodeChar (c : Char) :
    (String.utf8EncodeChar c).filter (!isSpace ·) =
      if IsSpace c then [] else String.utf8EncodeChar c := by
  by_cases hascii : c.toNat < 128
  · have hspace : isSpace (UInt8.ofNat c.toNat) = true ↔ IsSpace c := by
      rw [isSpace_octet_iff, toNat_ofNat_of_ascii hascii, isSpace_iff]
    rw [utf8EncodeChar_of_ascii hascii]
    by_cases h : IsSpace c
    · rw [if_pos h, List.filter_cons_of_neg (by simp [hspace.mpr h]), List.filter_nil]
    · rw [if_neg h, List.filter_cons_of_pos (by simpa using mt hspace.mp h), List.filter_nil]
  · -- white space is ASCII, and so is no octet of this character
    have hchar : ¬ IsSpace c := by
      rw [isSpace_iff]
      omega
    rw [if_neg hchar, List.filter_eq_self]
    intro b hb
    have hlarge := le_toNat_of_mem_utf8EncodeChar (by omega) hb
    have hoctet : ¬ isSpace b = true := by
      rw [isSpace_octet_iff]
      omega
    simpa using hoctet

theorem octetsOf_filter (cs : List Char) :
    octetsOf (cs.filter (¬ IsSpace ·)) = (octetsOf cs).filter (!isSpace ·) := by
  induction cs with
  | nil => rfl
  | cons c cs ih =>
    rw [octetsOf_cons, List.filter_append, filter_utf8EncodeChar, ← ih]
    by_cases h : IsSpace c
    · rw [if_pos h, List.filter_cons_of_neg (by simpa using h), List.nil_append]
    · rw [if_neg h, List.filter_cons_of_pos (by simpa using h), octetsOf_cons]

theorem octets_compact (s : String) : octets (compact s) = (octets s).filter (!isSpace ·) := by
  rw [octets, compact, String.toList_ofList, octetsOf_filter]
  rfl

theorem compact_of_forall {s : String} (h : ∀ c ∈ s.toList, ¬ IsSpace c) : compact s = s := by
  rw [compact, List.filter_eq_self.mpr, String.ofList_toList]
  intro c hc
  exact decide_eq_true (h c hc)

theorem octetLength_compact_le (s : String) : octetLength (compact s) ≤ octetLength s := by
  rw [octetLength, octets_compact]
  exact List.length_filter_le _ _

theorem decode_eq_decodeCompact (s : String) : decode s = decodeCompact (octets (compact s)) := by
  rw [octets_compact]
  rfl

theorem decode_congr {s t : String} (h : compact s = compact t) : decode s = decode t := by
  rw [decode_eq_decodeCompact, h, ← decode_eq_decodeCompact]

/-! ## Symbols -/

theorem isSome_value?_of_symbolAt {offset v : Nat} {b : UInt8} (h : symbolAt offset b = .ok v) :
    (value? b).isSome = true := by
  unfold symbolAt at h
  split at h
  · rename_i hv
    rw [hv]
    rfl
  · contradiction

theorem isSymbol_of_symbolAt {offset v : Nat} {b : UInt8} (h : symbolAt offset b = .ok v) :
    isSymbol b = true := by
  rw [isSymbol, isSome_value?_of_symbolAt h, Bool.or_true]

theorem isSymbol_of_lastSymbols {start i : Nat} {text : Octets} {symbols : List (UInt8 × Nat)}
    (h : lastSymbols start i text = .ok symbols) : ∀ b ∈ text, isSymbol b = true := by
  induction text generalizing i symbols with
  | nil => simp
  | cons b rest ih =>
    rw [lastSymbols] at h
    split at h
    · -- from the first padding on there is padding only
      rename_i hpad
      split at h
      · rename_i hrest
        intro d hd
        have hd : d = pad := by
          rcases List.mem_cons.mp hd with rfl | hd
          · exact hpad
          · exact eq_of_beq (List.all_eq_true.mp hrest.2 d hd)
        rw [hd]
        rfl
      · contradiction
    · obtain ⟨v, hv, htail⟩ := Outcome.bind_eq_ok_iff.mp h
      obtain ⟨tail, htail, -⟩ := Outcome.bind_eq_ok_iff.mp htail
      intro d hd
      rcases List.mem_cons.mp hd with rfl | hd
      · exact isSymbol_of_symbolAt hv
      · exact ih htail d hd

theorem isSymbol_of_decodeLast {start : Nat} {text data : Octets}
    (h : decodeLast start text = .ok data) : ∀ b ∈ text, isSymbol b = true := by
  obtain ⟨symbols, hsymbols, -⟩ := Outcome.bind_eq_ok_iff.mp h
  exact isSymbol_of_lastSymbols hsymbols

theorem isSymbol_of_decodeGroups (start : Nat) (text data : Octets)
    (h : decodeGroups start text = .ok data) : ∀ b ∈ text, isSymbol b = true := by
  fun_induction decodeGroups start text generalizing data with
  | case1 start a b c d e rest ih =>
    simp only [Outcome.bind_eq_ok_iff] at h
    obtain ⟨va, ha, vb, hb, vc, hc, vd, hd, tail, htail, -⟩ := h
    have hrest := ih tail htail
    intro x hx
    simp only [List.mem_cons] at hx hrest
    rcases hx with rfl | rfl | rfl | rfl | hx
    · exact isSymbol_of_symbolAt ha
    · exact isSymbol_of_symbolAt hb
    · exact isSymbol_of_symbolAt hc
    · exact isSymbol_of_symbolAt hd
    · exact hrest x hx
  | case2 start last _ => exact isSymbol_of_decodeLast h

theorem decodeGroups_of_decodeCompact {text data : Octets} (h : decodeCompact text = .ok data) :
    decodeGroups 0 text = .ok data := by
  rw [decodeCompact] at h
  split at h
  · split at h
    · contradiction
    · exact h
  · rename_i hnone
    rw [List.getLast?_eq_none_iff.mp hnone]
    exact h

theorem toNat_lt_of_isSymbol {b : UInt8} (h : isSymbol b = true) : b.toNat < 128 := by
  simp only [isSymbol, Bool.or_eq_true, beq_iff_eq] at h
  rcases h with rfl | h
  · decide
  · unfold value? at h
    simp only at h
    split at h
    · omega
    · split at h
      · omega
      · split at h
        · omega
        · split at h
          · omega
          · split at h
            · omega
            · contradiction

theorem isSymbol_of_decode {s : String} {data : Octets} (h : decode s = .ok data) :
    ∀ b ∈ octets (compact s), isSymbol b = true := by
  rw [decode_eq_decodeCompact] at h
  exact isSymbol_of_decodeGroups _ _ _ (decodeGroups_of_decodeCompact h)

theorem octetLength_of_decode {s : String} {data : Octets} (h : decode s = .ok data) :
    octetLength (compact s) = (compact s).length := by
  apply octetLength_of_ascii
  intro c hc
  rcases Nat.lt_or_ge c.toNat 128 with hsmall | hlarge
  · exact hsmall
  · obtain ⟨b, hb⟩ := List.exists_mem_of_ne_nil _ (String.utf8EncodeChar_ne_nil (c := c))
    have hout := le_toNat_of_mem_utf8EncodeChar hlarge hb
    have hin := toNat_lt_of_isSymbol (isSymbol_of_decode h b (List.mem_flatMap.mpr ⟨c, hc, hb⟩))
    omega

/-! ## Writing -/

theorem value?_symbol {v : Nat} (h : v < 64) : value? (symbol v) = some v :=
  (by decide : ∀ v < 64, value? (symbol v) = some v) v h

theorem symbol_ne_pad {v : Nat} (h : v < 64) : symbol v ≠ pad :=
  (by decide : ∀ v < 64, symbol v ≠ pad) v h

theorem symbolAt_symbol (offset : Nat) {v : Nat} (h : v < 64) :
    symbolAt offset (symbol v) = .ok v := by
  rw [symbolAt, value?_symbol h]

theorem lastSymbols_symbol (start i : Nat) {v : Nat} (h : v < 64) (rest : Octets) :
    lastSymbols start i (symbol v :: rest) =
      (lastSymbols start (i + 1) rest).map ((symbol v, v) :: ·) := by
  rw [lastSymbols, if_neg (symbol_ne_pad h), symbolAt_symbol _ h]
  cases lastSymbols start (i + 1) rest <;> rfl

/-- A complete group stands for three octets, also where it is the last one. -/
theorem decodeGroups_group (start : Nat) {a b c d : Nat} (ha : a < 64) (hb : b < 64)
    (hc : c < 64) (hd : d < 64) (text : Octets) :
    decodeGroups start (symbol a :: symbol b :: symbol c :: symbol d :: text) =
      (decodeGroups (start + 4) text).map (joinGroup a b c d ++ ·) := by
  cases text with
  | nil =>
    rw [decodeGroups, decodeLast]
    · simp only [lastSymbols_symbol, ha, hb, hc, hd]
      rfl
    · intro _ _ _ _ _ _ h
      cases h
  | cons e rest =>
    simp only [decodeGroups, symbolAt_symbol, ha, hb, hc, hd]
    show (decodeGroups (start + 4) (e :: rest) >>= fun tail => _) = _
    cases decodeGroups (start + 4) (e :: rest) <;> rfl

theorem joinGroup_octets (a b c : UInt8) :
    joinGroup (a.toNat / 4) (a.toNat % 4 * 16 + b.toNat / 16)
      (b.toNat % 16 * 4 + c.toNat / 64) (c.toNat % 64) = [a, b, c] := by
  have hb := b.toNat_lt
  have hc := c.toNat_lt
  have h1 : a.toNat / 4 * 4 + (a.toNat % 4 * 16 + b.toNat / 16) / 16 = a.toNat := by omega
  have h2 : (a.toNat % 4 * 16 + b.toNat / 16) % 16 * 16 +
      (b.toNat % 16 * 4 + c.toNat / 64) / 4 = b.toNat := by omega
  have h3 : (b.toNat % 16 * 4 + c.toNat / 64) % 4 * 64 + c.toNat % 64 = c.toNat := by omega
  rw [joinGroup, h1, h2, h3, UInt8.ofNat_toNat, UInt8.ofNat_toNat, UInt8.ofNat_toNat]

/-- From the third place of the last group on any amount of padding is read. -/
theorem lastSymbols_padding (start : Nat) {i : Nat} (h : 2 ≤ i) (k : Nat) :
    lastSymbols start i (List.replicate k pad) = .ok [] := by
  cases k with
  | zero => rfl
  | succ k =>
    have hrest : (List.replicate k pad).all (· == pad) = true := by
      rw [List.all_eq_true]
      intro b hb
      rw [List.eq_of_mem_replicate hb]
      rfl
    rw [List.replicate_succ, lastSymbols, if_pos rfl, if_pos ⟨h, hrest⟩]

theorem decodeLast_one (start : Nat) (a : UInt8) (k : Nat) :
    decodeLast start (symbol (a.toNat / 4) :: symbol (a.toNat % 4 * 16) ::
      List.replicate k pad) = .ok [a] := by
  have ha := a.toNat_lt
  have hbits : a.toNat % 4 * 16 % 16 = 0 := by omega
  have hvalue : a.toNat / 4 * 4 + a.toNat % 4 * 16 / 16 = a.toNat := by omega
  rw [decodeLast, lastSymbols_symbol _ _ (by omega), lastSymbols_symbol _ _ (by omega),
    lastSymbols_padding _ (Nat.le_refl 2)]
  show (if a.toNat % 4 * 16 % 16 = 0 then _ else _) = _
  rw [if_pos hbits, hvalue, UInt8.ofNat_toNat]
  rfl

theorem decodeLast_two (start : Nat) (a b : UInt8) (k : Nat) :
    decodeLast start (symbol (a.toNat / 4) :: symbol (a.toNat % 4 * 16 + b.toNat / 16) ::
      symbol (b.toNat % 16 * 4) :: List.replicate k pad) = .ok [a, b] := by
  have ha := a.toNat_lt
  have hb := b.toNat_lt
  have hbits : b.toNat % 16 * 4 % 4 = 0 := by omega
  have hfirst : a.toNat / 4 * 4 + (a.toNat % 4 * 16 + b.toNat / 16) / 16 = a.toNat := by omega
  have hsecond : (a.toNat % 4 * 16 + b.toNat / 16) % 16 * 16 + b.toNat % 16 * 4 / 4 =
      b.toNat := by omega
  rw [decodeLast, lastSymbols_symbol _ _ (by omega), lastSymbols_symbol _ _ (by omega),
    lastSymbols_symbol _ _ (by omega), lastSymbols_padding _ (Nat.le_succ 2)]
  show (if b.toNat % 16 * 4 % 4 = 0 then _ else _) = _
  rw [if_pos hbits, hfirst, hsecond, UInt8.ofNat_toNat, UInt8.ofNat_toNat]
  rfl

/-- The symbols that data is written with, without the padding. -/
def bare (data : Octets) : Octets := (encodeOctets data).takeWhile (· ≠ pad)

/-- The padding behind the symbols of data. -/
def padding (data : Octets) : Nat := (3 - data.length % 3) % 3

theorem bare_one (a : UInt8) :
    bare [a] = [symbol (a.toNat / 4), symbol (a.toNat % 4 * 16)] := by
  have ha := a.toNat_lt
  simp [bare, encodeOctets, symbol_ne_pad (v := a.toNat / 4) (by omega),
    symbol_ne_pad (v := a.toNat % 4 * 16) (by omega)]

theorem bare_two (a b : UInt8) :
    bare [a, b] = [symbol (a.toNat / 4), symbol (a.toNat % 4 * 16 + b.toNat / 16),
      symbol (b.toNat % 16 * 4)] := by
  have ha := a.toNat_lt
  have hb := b.toNat_lt
  simp [bare, encodeOctets, symbol_ne_pad (v := a.toNat / 4) (by omega),
    symbol_ne_pad (v := a.toNat % 4 * 16 + b.toNat / 16) (by omega),
    symbol_ne_pad (v := b.toNat % 16 * 4) (by omega)]

theorem bare_group (a b c : UInt8) (rest : Octets) :
    bare (a :: b :: c :: rest) = symbol (a.toNat / 4) ::
      symbol (a.toNat % 4 * 16 + b.toNat / 16) :: symbol (b.toNat % 16 * 4 + c.toNat / 64) ::
      symbol (c.toNat % 64) :: bare rest := by
  have ha := a.toNat_lt
  have hb := b.toNat_lt
  have hc := c.toNat_lt
  simp [bare, encodeOctets, symbol_ne_pad (v := a.toNat / 4) (by omega),
    symbol_ne_pad (v := a.toNat % 4 * 16 + b.toNat / 16) (by omega),
    symbol_ne_pad (v := b.toNat % 16 * 4 + c.toNat / 64) (by omega),
    symbol_ne_pad (v := c.toNat % 64) (by omega)]

theorem encodeOctets_eq (data : Octets) :
    encodeOctets data = bare data ++ List.replicate (padding data) pad := by
  fun_induction encodeOctets data with
  | case1 => rfl
  | case2 a =>
    rw [bare_one]
    rfl
  | case3 a b =>
    rw [bare_two]
    rfl
  | case4 a b c rest ih =>
    have hpadding : padding (a :: b :: c :: rest) = padding rest := by
      simp only [padding, List.length_cons]
      omega
    rw [bare_group, hpadding, ih]
    rfl

theorem decodeGroups_bare (start : Nat) (data : Octets) {k : Nat} (hk : k ≤ padding data) :
    decodeGroups start (bare data ++ List.replicate k pad) = .ok data := by
  fun_induction encodeOctets data generalizing start with
  | case1 =>
    obtain rfl : k = 0 := Nat.le_zero.mp hk
    rfl
  | case2 a =>
    have hshort : k ≤ 2 := hk
    rw [bare_one, decodeGroups]
    · exact decodeLast_one start a k
    · intro a b c d e rest htext
      have hlength := congrArg List.length htext
      simp at hlength
      omega
  | case3 a b =>
    have hshort : k ≤ 1 := hk
    rw [bare_two, decodeGroups]
    · exact decodeLast_two start a b k
    · intro a b c d e rest htext
      have hlength := congrArg List.length htext
      simp at hlength
      omega
  | case4 a b c rest ih =>
    have ha := a.toNat_lt
    have hb := b.toNat_lt
    have hc := c.toNat_lt
    have hrest : k ≤ padding rest := by
      simp only [padding, List.length_cons] at hk ⊢
      omega
    rw [bare_group]
    simp only [List.cons_append]
    rw [decodeGroups_group _ (by omega) (by omega) (by omega) (by omega), ih _ hrest,
      joinGroup_octets]
    rfl

theorem decodeGroups_encodeOctets (start : Nat) (data : Octets) :
    decodeGroups start (encodeOctets data) = .ok data := by
  rw [encodeOctets_eq]
  exact decodeGroups_bare start data (Nat.le_refl _)

theorem isSymbol_of_mem_encodeOctets {data : Octets} {b : UInt8} (h : b ∈ encodeOctets data) :
    isSymbol b = true :=
  isSymbol_of_decodeGroups 0 _ _ (decodeGroups_encodeOctets 0 data) b h

theorem isSpace_of_isSymbol {b : UInt8} (h : isSymbol b = true) : isSpace b = false := by
  have hb : ∀ n < 128, isSymbol (UInt8.ofNat n) = true → isSpace (UInt8.ofNat n) = false := by
    decide
  rw [← UInt8.ofNat_toNat (x := b)] at h ⊢
  exact hb _ (toNat_lt_of_isSymbol (by rwa [UInt8.ofNat_toNat] at h)) h

theorem octets_encode (data : Octets) : octets (encode data) = encodeOctets data := by
  have hcode : ∀ b ∈ encodeOctets data, (Char.ofNat b.toNat).toNat = b.toNat := by
    intro b hb
    exact toNat_charOfNat_of_ascii (toNat_lt_of_isSymbol (isSymbol_of_mem_encodeOctets hb))
  have hascii : ∀ c ∈ (encodeOctets data).map fun b => Char.ofNat b.toNat, c.toNat < 128 := by
    intro c hc
    obtain ⟨b, hb, rfl⟩ := List.mem_map.mp hc
    rw [hcode b hb]
    exact toNat_lt_of_isSymbol (isSymbol_of_mem_encodeOctets hb)
  rw [octets, encode, String.toList_ofList, octetsOf_of_ascii hascii, List.map_map]
  refine (List.map_congr_left fun b hb => ?_).trans (List.map_id _)
  show UInt8.ofNat (Char.ofNat b.toNat).toNat = b
  rw [hcode b hb, UInt8.ofNat_toNat]

theorem decode_encode (data : Octets) : decode (encode data) = .ok data := by
  have hnone : (encodeOctets data).filter (!isSpace ·) = encodeOctets data := by
    rw [List.filter_eq_self]
    intro b hb
    rw [isSpace_of_isSymbol (isSymbol_of_mem_encodeOctets hb)]
    rfl
  rw [decode, octets_encode, hnone, decodeCompact]
  split
  · rename_i b hlast
    -- The last octet is a symbol, so it is not the foreign one that would be reported.
    have hsymbol := isSymbol_of_mem_encodeOctets (List.mem_of_getLast? hlast)
    rw [if_neg (by simp [hsymbol]), decodeGroups_encodeOctets]
  · rename_i hempty
    rw [← decodeGroups_encodeOctets 0 data, List.getLast?_eq_none_iff.mp hempty]
    rfl

end CarrierAuth.Base64
