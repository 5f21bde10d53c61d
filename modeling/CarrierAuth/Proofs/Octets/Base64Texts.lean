import CarrierAuth.Proofs.Octets.Base64

/-
  Base64 texts, exactly — the reader takes what the writer writes, and besides that
  only white space anywhere and less padding at the end.

  What is proved:
    1. `decodeGroups_eq_ok_iff` — octets are read as data exactly where they are the
       symbols that the data is written with (`bare`) and then any part of the padding
       (`padding`). Reading is undone group by group (`bare_joinGroup`), the last group
       by its number of symbols (`decodeLast_eq_ok`).
    2. `exists_decodeGroups_iff` — they are read as some data unless one of five things
       is wrong with them (`Defective`).
    3. `writes_iff` — the same for texts: a character that is no octet long stands
       for no symbol, so a text with its white space removed is told by its octets.
    4. `octetLength_compact_of_decode` — how long a text is by how much it holds.
    5. `readBase64_inverts_encode` — all of it, for the reader as the library uses it.
-/
namespace CarrierAuth.Base64

/-! ## Symbols -/

theorem symbol_of_value? {b : UInt8} {v : Nat} (h : value? b = some v) :
    v < 64 ∧ b = symbol v := by
  have hall : ∀ n < 128, (value? (UInt8.ofNat n)).all
      (fun v => decide (v < 64 ∧ UInt8.ofNat n = symbol v)) = true := by decide
  have hsymbol : isSymbol b = true := by
    rw [isSymbol, h, Option.isSome_some, Bool.or_true]
  have hb := hall b.toNat (toNat_lt_of_isSymbol hsymbol)
  rw [UInt8.ofNat_toNat, h] at hb
  exact of_decide_eq_true hb

theorem exists_symbol {b : UInt8} (h : (value? b).isSome = true) : ∃ v < 64, b = symbol v := by
  obtain ⟨v, hv⟩ := Option.isSome_iff_exists.mp h
  exact ⟨v, symbol_of_value? hv⟩

theorem symbolAt_eq_ok_iff {offset v : Nat} {b : UInt8} :
    symbolAt offset b = .ok v ↔ v < 64 ∧ b = symbol v := by
  refine ⟨fun h => ?_, ?_⟩
  · unfold symbolAt at h
    split at h
    · rename_i hv
      obtain rfl := Except.ok.inj h
      exact symbol_of_value? hv
    · contradiction
  · rintro ⟨hv, rfl⟩
    exact symbolAt_symbol offset hv

/-- What the last group is made of: symbols, and then padding. -/
theorem eq_of_lastSymbols {start i : Nat} {text : Octets} {symbols : List (UInt8 × Nat)}
    (h : lastSymbols start i text = .ok symbols) :
    (∀ s ∈ symbols, s.2 < 64) ∧
      ∃ k, text = symbols.map (fun s => symbol s.2) ++ List.replicate k pad := by
  induction text generalizing i symbols with
  | nil =>
    obtain rfl := Except.ok.inj h
    exact ⟨by simp, 0, rfl⟩
  | cons b rest ih =>
    rw [lastSymbols] at h
    split at h
    · rename_i hpad
      split at h
      · rename_i hrest
        obtain rfl := Except.ok.inj h
        refine ⟨by simp, rest.length + 1, ?_⟩
        have hall : ∀ d ∈ rest, d = pad := fun d hd => eq_of_beq (List.all_eq_true.mp hrest.2 d hd)
        rw [hpad, List.replicate_succ, ← List.eq_replicate_of_mem hall]
        rfl
      · contradiction
    · obtain ⟨v, hv, htail⟩ := Outcome.bind_eq_ok_iff.mp h
      obtain ⟨tail, hrest, hpure⟩ := Outcome.bind_eq_ok_iff.mp htail
      obtain rfl := Except.ok.inj hpure
      obtain ⟨hvalue, hsymbol⟩ := symbolAt_eq_ok_iff.mp hv
      obtain ⟨hvalues, k, hlist⟩ := ih hrest
      refine ⟨?_, k, ?_⟩
      · rw [List.forall_mem_cons]
        exact ⟨hvalue, hvalues⟩
      · rw [hlist, hsymbol]
        rfl

theorem bare_one_of_values {a b : Nat} (ha : a < 64) (hb : b < 64) (hbits : b % 16 = 0) :
    bare [UInt8.ofNat (a * 4 + b / 16)] = [symbol a, symbol b] := by
  have hvalue : (UInt8.ofNat (a * 4 + b / 16)).toNat = a * 4 + b / 16 :=
    UInt8.toNat_ofNat_of_lt (show _ < 256 by omega)
  have h1 : (a * 4 + b / 16) / 4 = a := by omega
  have h2 : (a * 4 + b / 16) % 4 * 16 = b := by omega
  rw [bare_one, hvalue, h1, h2]

theorem bare_two_of_values {a b c : Nat} (ha : a < 64) (hb : b < 64) (hc : c < 64)
    (hbits : c % 4 = 0) :
    bare [UInt8.ofNat (a * 4 + b / 16), UInt8.ofNat (b % 16 * 16 + c / 4)] =
      [symbol a, symbol b, symbol c] := by
  have hfirst : (UInt8.ofNat (a * 4 + b / 16)).toNat = a * 4 + b / 16 :=
    UInt8.toNat_ofNat_of_lt (show _ < 256 by omega)
  have hsecond : (UInt8.ofNat (b % 16 * 16 + c / 4)).toNat = b % 16 * 16 + c / 4 :=
    UInt8.toNat_ofNat_of_lt (show _ < 256 by omega)
  have h1 : (a * 4 + b / 16) / 4 = a := by omega
  have h2 : (a * 4 + b / 16) % 4 * 16 + (b % 16 * 16 + c / 4) / 16 = b := by omega
  have h3 : (b % 16 * 16 + c / 4) % 16 * 4 = c := by omega
  rw [bare_two, hfirst, hsecond, h1, h2, h3]

theorem bare_joinGroup {a b c d : Nat} (ha : a < 64) (hb : b < 64) (hc : c < 64) (hd : d < 64)
    (rest : Octets) :
    bare (joinGroup a b c d ++ rest) =
      symbol a :: symbol b :: symbol c :: symbol d :: bare rest := by
  have h1 : (UInt8.ofNat (a * 4 + b / 16)).toNat = a * 4 + b / 16 :=
    UInt8.toNat_ofNat_of_lt (show _ < 256 by omega)
  have h2 : (UInt8.ofNat (b % 16 * 16 + c / 4)).toNat = b % 16 * 16 + c / 4 :=
    UInt8.toNat_ofNat_of_lt (show _ < 256 by omega)
  have h3 : (UInt8.ofNat (c % 4 * 64 + d)).toNat = c % 4 * 64 + d :=
    UInt8.toNat_ofNat_of_lt (show _ < 256 by omega)
  show bare (_ :: _ :: _ :: rest) = _
  rw [bare_group, h1, h2, h3]
  have e1 : (a * 4 + b / 16) / 4 = a := by omega
  have e2 : (a * 4 + b / 16) % 4 * 16 + (b % 16 * 16 + c / 4) / 16 = b := by omega
  have e3 : (b % 16 * 16 + c / 4) % 16 * 4 + (c % 4 * 64 + d) / 64 = c := by omega
  have e4 : (c % 4 * 64 + d) % 64 = d := by omega
  rw [e1, e2, e3, e4]

/-! ## Reading -/

theorem decodeLast_eq_ok {start : Nat} {text data : Octets} (hshort : text.length ≤ 4)
    (h : decodeLast start text = .ok data) :
    ∃ k ≤ padding data, text = bare data ++ List.replicate k pad := by
  obtain ⟨symbols, hsymbols, h⟩ := Outcome.bind_eq_ok_iff.mp h
  obtain ⟨hvalues, k, htext⟩ := eq_of_lastSymbols hsymbols
  rw [htext, List.length_append, List.length_map, List.length_replicate] at hshort
  refine ⟨k, ?_⟩
  -- One case for each number of symbols.
  split at h
  · split at h
    · rename_i hempty
      obtain rfl := Except.ok.inj h
      rw [List.isEmpty_iff.mp hempty] at htext ⊢
      have hk : k = 0 := by simpa using htext.symm
      rw [hk]
      exact ⟨Nat.zero_le _, rfl⟩
    · contradiction
  · contradiction
  · rename_i x a y b
    simp only [List.forall_mem_cons] at hvalues
    split at h
    · rename_i hbits
      obtain rfl := Except.ok.inj h
      rw [bare_one_of_values hvalues.1 hvalues.2.1 hbits]
      refine ⟨?_, htext⟩
      show k ≤ 2
      simp only [List.length_cons, List.length_nil] at hshort
      omega
    · contradiction
  · rename_i x a y b z c
    simp only [List.forall_mem_cons] at hvalues
    split at h
    · rename_i hbits
      obtain rfl := Except.ok.inj h
      rw [bare_two_of_values hvalues.1 hvalues.2.1 hvalues.2.2.1 hbits]
      refine ⟨?_, htext⟩
      show k ≤ 1
      simp only [List.length_cons, List.length_nil] at hshort
      omega
    · contradiction
  · rename_i x a y b z c w d rest
    obtain rfl := Except.ok.inj h
    simp only [List.length_cons] at hshort
    obtain rfl : k = 0 := by omega
    obtain rfl : rest = [] := List.eq_nil_of_length_eq_zero (by omega)
    simp only [List.forall_mem_cons] at hvalues
    obtain ⟨ha, hb, hc, hd, -⟩ := hvalues
    have hbare := bare_joinGroup ha hb hc hd []
    rw [List.append_nil] at hbare
    rw [hbare]
    exact ⟨Nat.zero_le _, htext⟩

/-- Symbols are read exactly where they are those that the data is written with, with
any part of the padding behind them. -/
theorem decodeGroups_eq_ok_iff {start : Nat} {text data : Octets} :
    decodeGroups start text = .ok data ↔
      ∃ k ≤ padding data, text = bare data ++ List.replicate k pad := by
  refine ⟨fun h => ?_, ?_⟩
  · fun_induction decodeGroups start text generalizing data with
    | case1 start a b c d e rest ih =>
      simp only [Outcome.bind_eq_ok_iff, symbolAt_eq_ok_iff] at h
      obtain ⟨va, ⟨ha, rfl⟩, vb, ⟨hb, rfl⟩, vc, ⟨hc, rfl⟩, vd, ⟨hd, rfl⟩, tail, htail, hdata⟩ := h
      obtain rfl := Except.ok.inj hdata
      obtain ⟨k, hk, hrest⟩ := ih htail
      have hpadding : padding (joinGroup va vb vc vd ++ tail) = padding tail := by
        simp only [padding, joinGroup, List.length_append, List.length_cons, List.length_nil]
        omega
      refine ⟨k, ?_, ?_⟩
      · rw [hpadding]
        exact hk
      · rw [bare_joinGroup ha hb hc hd, hrest]
        rfl
    | case2 start last hlast =>
      refine decodeLast_eq_ok ?_ h
      rcases last with - | ⟨a, - | ⟨b, - | ⟨c, - | ⟨d, - | ⟨e, rest⟩⟩⟩⟩⟩
      case cons.cons.cons.cons.cons => exact absurd rfl (hlast a b c d e rest)
      all_goals simp
  · rintro ⟨k, hk, rfl⟩
    exact decodeGroups_bare start data hk

theorem decodeCompact_eq_ok_iff {text data : Octets} :
    decodeCompact text = .ok data ↔ decodeGroups 0 text = .ok data := by
  refine ⟨decodeGroups_of_decodeCompact, fun h => ?_⟩
  rw [decodeCompact]
  split
  · rename_i b hlast
    -- Every octet that is read is a symbol, the last one too.
    have hsymbol := isSymbol_of_decodeGroups 0 text data h b (List.mem_of_getLast? hlast)
    rw [if_neg (by simp [hsymbol]), h]
  · rename_i hnone
    rw [List.getLast?_eq_none_iff.mp hnone] at h
    exact h

/-! ## Writing -/

theorem pad_not_mem_bare (data : Octets) : pad ∉ bare data := by
  intro hpad
  simpa using List.all_eq_true.mp List.all_takeWhile pad hpad

theorem padding_le_two (data : Octets) : padding data ≤ 2 := by
  unfold padding
  omega

theorem length_bare_add_padding (data : Octets) :
    (bare data).length + padding data = 4 * ((data.length + 2) / 3) := by
  fun_induction encodeOctets data with
  | case1 => rfl
  | case2 a => simp [bare_one, padding]
  | case3 a b => simp [bare_two, padding]
  | case4 a b c rest ih =>
    have hpadding : padding (a :: b :: c :: rest) = padding rest := by
      simp only [padding, List.length_cons]
      omega
    rw [hpadding, bare_group]
    simp only [List.length_cons]
    omega

/-- The bits of a last symbol that no octet takes up are zero. -/
def NoBitsLeft (symbols : Octets) : Prop :=
  ∀ b v, symbols.getLast? = some b → value? b = some v →
    (symbols.length % 4 = 2 → v % 16 = 0) ∧ (symbols.length % 4 = 3 → v % 4 = 0)

theorem noBitsLeft_bare (data : Octets) : NoBitsLeft (bare data) := by
  intro b v hlast hvalue
  fun_induction encodeOctets data with
  | case1 => contradiction
  | case2 a =>
    have ha := a.toNat_lt
    rw [bare_one] at hlast ⊢
    obtain rfl : symbol (a.toNat % 4 * 16) = b := Option.some.inj hlast
    rw [value?_symbol (by omega)] at hvalue
    obtain rfl := Option.some.inj hvalue
    exact ⟨fun _ => by omega, fun h => by simp at h⟩
  | case3 a c =>
    have hc := c.toNat_lt
    rw [bare_two] at hlast ⊢
    obtain rfl : symbol (c.toNat % 16 * 4) = b := Option.some.inj hlast
    rw [value?_symbol (by omega)] at hvalue
    obtain rfl := Option.some.inj hvalue
    exact ⟨fun h => by simp at h, fun _ => by omega⟩
  | case4 a c d rest ih =>
    rw [bare_group] at hlast ⊢
    simp only [List.length_cons]
    cases hrest : bare rest with
    | nil => exact ⟨fun h => by simp at h, fun h => by simp at h⟩
    | cons e more =>
      rw [hrest] at hlast ih
      simp only [List.getLast?_cons_cons] at hlast
      have hrest := ih hlast
      simp only [List.length_cons] at hrest ⊢
      exact ⟨fun h => hrest.1 (by omega), fun h => hrest.2 (by omega)⟩

/-- Symbols without a dangling one and without bits left over are what some data is
written with. -/
theorem exists_bare : ∀ (symbols : Octets), (∀ b ∈ symbols, (value? b).isSome = true) →
    symbols.length % 4 ≠ 1 → NoBitsLeft symbols → ∃ data, bare data = symbols
  | [], _, _, _ => ⟨[], rfl⟩
  | [_], _, hlength, _ => absurd rfl hlength
  | [x, y], hsymbols, _, hbits => by
    simp only [List.forall_mem_cons] at hsymbols
    obtain ⟨hx, hy, -⟩ := hsymbols
    obtain ⟨a, ha, rfl⟩ := exists_symbol hx
    obtain ⟨b, hb, rfl⟩ := exists_symbol hy
    have hzero := (hbits (symbol b) b rfl (value?_symbol hb)).1 rfl
    exact ⟨_, bare_one_of_values ha hb hzero⟩
  | [x, y, z], hsymbols, _, hbits => by
    simp only [List.forall_mem_cons] at hsymbols
    obtain ⟨hx, hy, hz, -⟩ := hsymbols
    obtain ⟨a, ha, rfl⟩ := exists_symbol hx
    obtain ⟨b, hb, rfl⟩ := exists_symbol hy
    obtain ⟨c, hc, rfl⟩ := exists_symbol hz
    have hzero := (hbits (symbol c) c rfl (value?_symbol hc)).2 rfl
    exact ⟨_, bare_two_of_values ha hb hc hzero⟩
  | x :: y :: z :: w :: rest, hsymbols, hlength, hbits => by
    simp only [List.forall_mem_cons] at hsymbols
    obtain ⟨hx, hy, hz, hw, hrest⟩ := hsymbols
    have hbitsRest : NoBitsLeft rest := by
      intro e v hlast hvalue
      have hne : rest ≠ [] := by
        rintro rfl
        exact nomatch hlast
      have hall := hbits e v (by
        rw [← hlast]
        simp [List.getLast?_cons, List.getLast?_eq_some_getLast hne]) hvalue
      simp only [List.length_cons] at hall
      exact ⟨fun h => hall.1 (by omega), fun h => hall.2 (by omega)⟩
    have hlengthRest : rest.length % 4 ≠ 1 := by
      simp only [List.length_cons] at hlength
      omega
    obtain ⟨data, hdata⟩ := exists_bare rest hrest hlengthRest hbitsRest
    obtain ⟨a, ha, rfl⟩ := exists_symbol hx
    obtain ⟨b, hb, rfl⟩ := exists_symbol hy
    obtain ⟨c, hc, rfl⟩ := exists_symbol hz
    obtain ⟨d, hd, rfl⟩ := exists_symbol hw
    exact ⟨joinGroup a b c d ++ data, by rw [bare_joinGroup ha hb hc hd, hdata]⟩

/-! ## Texts that are refused -/

/-- The symbols in front of the padding. -/
def front (text : Octets) : Octets := text.takeWhile (· ≠ pad)

/-- What stands from the first padding on. -/
def back (text : Octets) : Octets := text.dropWhile (· ≠ pad)

/-- What is wrong with a text that is refused, its white space aside. -/
inductive Defective (text : Octets) : Prop
  /-- There is an octet that is neither a symbol nor padding. -/
  | foreign (b : UInt8) (hmem : b ∈ text) (hforeign : isSymbol b = false)
  /-- Padding is followed by something else. -/
  | misplacedPadding (b : UInt8) (hmem : b ∈ back text) (hother : b ≠ pad)
  /-- There is more padding than the last group of four has room for. -/
  | excessPadding (hexcess : (4 - (front text).length % 4) % 4 < (back text).length)
  /-- The last group has one symbol only. -/
  | dangling (hsingle : (front text).length % 4 = 1)
  /-- The last symbol has bits that no octet takes up. -/
  | bitsLeft (hbits : ¬ NoBitsLeft (front text))

theorem front_append_back (text : Octets) : front text ++ back text = text :=
  List.takeWhile_append_dropWhile

theorem front_written {symbols : Octets} (h : pad ∉ symbols) (k : Nat) :
    front (symbols ++ List.replicate k pad) = symbols := by
  rw [front, List.takeWhile_append_of_pos]
  · cases k <;> simp [List.replicate_succ]
  · intro b hb
    rw [decide_eq_true_eq]
    rintro rfl
    exact h hb

theorem back_written {symbols : Octets} (h : pad ∉ symbols) (k : Nat) :
    back (symbols ++ List.replicate k pad) = List.replicate k pad := by
  have hsplit := front_append_back (symbols ++ List.replicate k pad)
  rw [front_written h] at hsplit
  exact List.append_cancel_left hsplit

theorem exists_decodeGroups_iff {text : Octets} :
    (∃ data, decodeGroups 0 text = .ok data) ↔ ¬ Defective text := by
  refine ⟨?_, fun h => ?_⟩
  · rintro ⟨data, hread⟩ hdefect
    have hsymbols := isSymbol_of_decodeGroups 0 text data hread
    obtain ⟨k, hk, rfl⟩ := decodeGroups_eq_ok_iff.mp hread
    have hlength := length_bare_add_padding data
    have hpadding := padding_le_two data
    have hfront := front_written (pad_not_mem_bare data) k
    have hback := back_written (pad_not_mem_bare data) k
    cases hdefect with
    | foreign b hmem hforeign =>
      rw [hsymbols b hmem] at hforeign
      contradiction
    | misplacedPadding b hmem hother =>
      rw [hback] at hmem
      exact hother (List.eq_of_mem_replicate hmem)
    | excessPadding hexcess =>
      rw [hfront, hback, List.length_replicate] at hexcess
      omega
    | dangling hsingle =>
      rw [hfront] at hsingle
      omega
    | bitsLeft hbits =>
      rw [hfront] at hbits
      exact hbits (noBitsLeft_bare data)
  · have hsymbols : ∀ b ∈ front text, (value? b).isSome = true := by
      intro b hb
      have hne : b ≠ pad := by simpa using List.all_eq_true.mp List.all_takeWhile b hb
      have hmem : b ∈ text := (List.takeWhile_sublist _).subset hb
      cases hsymbol : isSymbol b with
      | false => exact absurd (.foreign b hmem hsymbol) h
      | true => simpa [isSymbol, hne] using hsymbol
    have hback : back text = List.replicate (back text).length pad := by
      refine List.eq_replicate_of_mem fun b hb => ?_
      exact Decidable.of_not_not fun hother => h (.misplacedPadding b hb hother)
    obtain ⟨data, hdata⟩ := exists_bare (front text) hsymbols (fun hsingle => h (.dangling hsingle))
      (Classical.not_not.mp fun hbits => h (.bitsLeft hbits))
    refine ⟨data, decodeGroups_eq_ok_iff.mpr ⟨(back text).length, ?_, ?_⟩⟩
    · have hroom : (back text).length ≤ (4 - (front text).length % 4) % 4 :=
        Nat.le_of_not_lt fun hexcess => h (.excessPadding hexcess)
      have hlength := length_bare_add_padding data
      have hpadding := padding_le_two data
      rw [hdata] at hlength
      omega
    · rw [hdata, ← hback, front_append_back]

/-! ## Texts that are read -/

/-- Whether a text is one that data is written with: white space aside, its symbols and
any part of its padding. -/
def Writes (t : String) (data : Octets) : Prop :=
  ∃ symbols k p, '=' ∉ symbols ∧ (compact t).toList = symbols ++ List.replicate k '=' ∧
    (encode data).toList = symbols ++ List.replicate p '=' ∧ k ≤ p

theorem octetsOf_append_padding (symbols : List Char) (k : Nat) :
    octetsOf (symbols ++ List.replicate k '=') = octetsOf symbols ++ List.replicate k pad := by
  have hpadding : octetsOf (List.replicate k '=') = List.replicate k pad := by
    induction k with
    | zero => rfl
    | succ k ih =>
      rw [List.replicate_succ, octetsOf_cons, ih]
      rfl
  rw [← hpadding, octetsOf, List.flatMap_append]
  rfl

theorem pad_not_mem_octetsOf {symbols : List Char} (h : '=' ∉ symbols) :
    pad ∉ octetsOf symbols := by
  intro hpad
  obtain ⟨c, hc, hoctet⟩ := List.mem_flatMap.mp hpad
  rcases Nat.lt_or_ge c.toNat 128 with hsmall | hlarge
  · rw [utf8EncodeChar_of_ascii hsmall, List.mem_singleton] at hoctet
    have hcode : (61 : Nat) = c.toNat := by
      rw [← toNat_ofNat_of_ascii hsmall, ← hoctet]
      rfl
    have heq : c = '=' := by
      rw [← Char.ofNat_toNat c, ← hcode]
    exact h (heq ▸ hc)
  · have hout := le_toNat_of_mem_utf8EncodeChar hlarge hoctet
    exact absurd hout (by decide)

/-- The symbols of data as characters. -/
def bareText (data : Octets) : List Char := (bare data).map fun b => Char.ofNat b.toNat

theorem toList_encode (data : Octets) :
    (encode data).toList = bareText data ++ List.replicate (padding data) '=' := by
  rw [encode, String.toList_ofList, encodeOctets_eq, List.map_append, List.map_replicate]
  rfl

theorem octetsOf_bareText (data : Octets) : octetsOf (bareText data) = bare data := by
  have hoctets := octets_encode data
  rw [octets, toList_encode, octetsOf_append_padding, encodeOctets_eq] at hoctets
  exact List.append_cancel_right hoctets

theorem writes_iff {t : String} {data : Octets} :
    Writes t data ↔
      ∃ k ≤ padding data, octets (compact t) = bare data ++ List.replicate k pad := by
  refine ⟨?_, ?_⟩
  · rintro ⟨symbols, k, p, hsymbols, ht, hdata, hk⟩
    have hoctets := octets_encode data
    rw [octets, hdata, octetsOf_append_padding] at hoctets
    have hnone := pad_not_mem_octetsOf hsymbols
    have hfront : octetsOf symbols = bare data := by
      rw [bare, ← hoctets]
      exact (front_written hnone p).symm
    have hback : p = padding data := by
      rw [hfront, encodeOctets_eq] at hoctets
      simpa using congrArg List.length (List.append_cancel_left hoctets)
    rw [octets, ht, octetsOf_append_padding, hfront]
    exact ⟨k, hback ▸ hk, rfl⟩
  · rintro ⟨k, hk, ht⟩
    have hnone : '=' ∉ bareText data := by
      intro hmem
      have hpad : pad ∈ octetsOf (bareText data) := List.mem_flatMap.mpr ⟨'=', hmem, by decide⟩
      rw [octetsOf_bareText] at hpad
      exact pad_not_mem_bare data hpad
    have htext : compact t = String.ofList (bareText data ++ List.replicate k '=') := by
      apply octets_injective
      rw [ht, octets, String.toList_ofList, octetsOf_append_padding, octetsOf_bareText]
    exact ⟨bareText data, k, padding data, hnone, by rw [htext, String.toList_ofList],
      toList_encode data, hk⟩

theorem decode_eq_ok_iff {t : String} {data : Octets} :
    decode t = .ok data ↔ Writes t data := by
  rw [decode_eq_decodeCompact, decodeCompact_eq_ok_iff, decodeGroups_eq_ok_iff, writes_iff]

/-! ## Lengths -/

/-- Three octets take four symbols; of a last group only the symbols that hold octets are
counted. -/
theorem length_bare (data : Octets) : (bare data).length = (4 * data.length + 2) / 3 := by
  have hlength := length_bare_add_padding data
  unfold padding at hlength
  omega

/-- A text that is read has, white space aside, the symbols of its data and at most as much
padding as completes the last group. -/
theorem octetLength_compact_of_decode {t : String} {data : Octets} (h : decode t = .ok data) :
    (4 * data.length + 2) / 3 ≤ octetLength (compact t) ∧
      octetLength (compact t) ≤ 4 * ((data.length + 2) / 3) := by
  obtain ⟨k, hk, hoctets⟩ := writes_iff.mp (decode_eq_ok_iff.mp h)
  have hsymbols := length_bare data
  have hgroups := length_bare_add_padding data
  rw [octetLength, hoctets, List.length_append, List.length_replicate]
  omega

theorem length_le_of_decode {t : String} {data : Octets} (h : decode t = .ok data)
    (hshort : (compact t).length ≤ 4) : data.length ≤ 3 := by
  have hlength := octetLength_compact_of_decode h
  rw [octetLength_of_decode h] at hlength
  omega

end Base64

open Base64 in
/-- A text is read as data exactly where it is one that the data is written with, white
space and any part of the padding aside; so no text stands for two data. Every other
text is malformed, and one of five things is wrong with it. -/
theorem readBase64_inverts_encode (t : String) :
    (∀ data, readBase64 t = .ok data ↔
      ∃ symbols k p, '=' ∉ symbols ∧ (compact t).toList = symbols ++ List.replicate k '=' ∧
        (encode data).toList = symbols ++ List.replicate p '=' ∧ k ≤ p) ∧
    (∀ data data', Writes t data → Writes t data' → data = data') ∧
    ((∃ fault, readBase64 t = .error (.base64 fault)) ↔ Defective (octets (compact t))) := by
  have hread (data : Octets) : readBase64 t = .ok data ↔ Writes t data := by
    rw [readBase64, Outcome.mapError_eq_ok_iff, decode_eq_ok_iff]
  refine ⟨hread, fun data data' hwrites hwrites' => ?_, ?_⟩
  · rw [← hread] at hwrites hwrites'
    exact Except.ok.inj (hwrites.symm.trans hwrites')
  · have hdefect : (∃ data, decode t = .ok data) ↔ ¬ Defective (octets (compact t)) := by
      simp only [decode_eq_decodeCompact, decodeCompact_eq_ok_iff, exists_decodeGroups_iff]
    rw [readBase64]
    cases hdecode : decode t with
    | ok data =>
      rw [Outcome.mapError_ok]
      exact ⟨fun ⟨_, h⟩ => by contradiction, fun h => absurd h (hdefect.mp ⟨data, hdecode⟩)⟩
    | error fault =>
      refine ⟨fun _ => Classical.not_not.mp fun hnone => ?_, fun _ => ⟨fault, rfl⟩⟩
      obtain ⟨data, hdata⟩ := hdefect.mpr hnone
      rw [hdecode] at hdata
      contradiction

end CarrierAuth
