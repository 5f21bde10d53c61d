import CarrierAuth.Proofs.Card.ReplyGrammar

/-
  First faults — which fault is given for a reply that cannot be decoded.

  Behind its tag, or once it is known to be no short one, a reply is a row of fields.
  The fault is about the first field of the row that cannot be read, and says how that
  one cannot be read (`Unreadable`). Where the fields before it end depends on their
  length octets; `FirstUnreadable` finds it by the fields themselves and not by a reader
  that moves on.

  What is proved:
    1. `readRow_eq_error_iff` — a row of fields fails for the first field that cannot be
       read, by induction on the row; both decoders read rows (`Umts.readFields_row`,
       `Gsm.readCounted_row`).
    2. `readRow_take` — a written row that is cut short fails for the field the cut falls
       in, by induction on the row.
    3. `fault_names_first_faulty_field` — both for either decoder, with the faults that
       come before the first field.
-/
namespace CarrierAuth

/-! ## One field -/

/-- Why no field can be read from the front of some octets: no length octet is left, the
length is a negative number, or it counts more octets than follow. -/
inductive Unreadable (name : ReplyField) : Octets → AuthFault → Prop where
  | missing : Unreadable name [] (.fieldTooShort name 1 0)
  | negative {b : UInt8} {behind : Octets} (h : 128 ≤ b.toNat) :
    Unreadable name (b :: behind) (.negativeLength name ((b.toNat : Int) - 256))
  | short {b : UInt8} {behind : Octets} (h : b.toNat < 128) (hroom : behind.length < b.toNat) :
    Unreadable name (b :: behind) (.fieldTooShort name b.toNat behind.length)

theorem readField_eq_error_iff {name : ReplyField} {data : Octets} {fault : AuthFault} :
    readField name data = .error fault ↔ Unreadable name data fault := by
  refine ⟨?_, ?_⟩
  · intro h
    cases data with
    | nil =>
      cases h
      exact .missing
    | cons b behind =>
      simp only [readField, Field.read] at h
      split at h
      · rename_i hsign
        cases h
        exact .negative hsign
      · rename_i hsign
        split at h
        · rename_i hroom
          cases h
          exact .short (Nat.lt_of_not_le hsign) hroom
        · cases h
  · intro h
    cases h with
    | missing => rfl
    | negative hsign =>
      simp only [readField, Field.read, hsign, if_true]
      rfl
    | short hsign hroom =>
      simp only [readField, Field.read, Nat.not_le.mpr hsign, hroom, if_true, if_false]
      rfl

theorem unreadable_take {content : Octets} (h : content.length ≤ Field.longest) {n : Nat}
    (hcut : n < (Field.encode content).length) (name : ReplyField) :
    ∃ expected actual,
      Unreadable name ((Field.encode content).take n) (.fieldTooShort name expected actual) := by
  cases n with
  | zero => exact ⟨1, 0, .missing⟩
  | succ n =>
    have hoctet := Field.toNat_lengthOctet h
    unfold Field.longest at h
    rw [Field.encode, List.length_cons] at hcut
    have hbehind : (content.take n).length < (UInt8.ofNat content.length).toNat := by
      rw [hoctet, List.length_take]
      omega
    rw [Field.encode, List.take_succ_cons]
    exact ⟨_, _, .short (by omega) hbehind⟩

/-! ## Rows of fields -/

/-- Reads a row of fields; gives what they hold, and the octets left over. -/
def readRow : List ReplyField → Octets → Except AuthFault (List Octets × Octets)
  | [], data => return ([], data)
  | name :: names, data => do
    let (content, data) ← readField name data
    let (contents, rest) ← readRow names data
    return (content :: contents, rest)

/-- Whether a fault is about the first field of a row that cannot be read: the fields
before it stand one behind the other, and what follows them holds no field. -/
def FirstUnreadable (row : List ReplyField) (data : Octets) (fault : AuthFault) : Prop :=
  ∃ (before : List ReplyField) (name : ReplyField) (after : List ReplyField)
    (contents : List Octets) (rest : Octets),
    row = before ++ name :: after ∧ contents.length = before.length ∧
    (∀ content ∈ contents, content.length ≤ Field.longest) ∧
    data = contents.flatMap Field.encode ++ rest ∧ Unreadable name rest fault

theorem not_firstUnreadable_nil (data : Octets) (fault : AuthFault) :
    ¬ FirstUnreadable [] data fault := by
  intro h
  obtain ⟨before, name, after, _, _, hrow, -⟩ := h
  cases before <;> cases hrow

/-- The first field that cannot be read is the first one or, behind that, the first of the
others. -/
theorem firstUnreadable_cons {name : ReplyField} {names : List ReplyField} {data : Octets}
    {fault : AuthFault} :
    FirstUnreadable (name :: names) data fault ↔
      Unreadable name data fault ∨
      ∃ content rest, content.length ≤ Field.longest ∧ data = Field.encode content ++ rest ∧
        FirstUnreadable names rest fault := by
  refine ⟨?_, ?_⟩
  · intro h
    obtain ⟨before, first, after, contents, rest, hrow, hlength, hcontents, rfl, hfault⟩ := h
    cases before with
    | nil =>
      obtain rfl := List.length_eq_zero_iff.mp hlength
      cases hrow
      exact .inl hfault
    | cons _ before =>
      cases contents with
      | nil => cases hlength
      | cons content contents =>
        cases hrow
        obtain ⟨hcontent, hcontents⟩ := List.forall_mem_cons.mp hcontents
        refine .inr ⟨content, _, hcontent, ?_, before, first, after, contents, rest, rfl,
          Nat.succ.inj hlength, hcontents, rfl, hfault⟩
        rw [List.flatMap_cons, List.append_assoc]
  · intro h
    rcases h with hfault | ⟨content, _, hcontent, rfl, before, first, after, contents, rest, rfl,
      hlength, hcontents, rfl, hfault⟩
    · exact ⟨[], name, names, [], data, rfl, rfl, by simp, rfl, hfault⟩
    · refine ⟨name :: before, first, after, content :: contents, rest, rfl,
        congrArg Nat.succ hlength, List.forall_mem_cons.mpr ⟨hcontent, hcontents⟩, ?_, hfault⟩
      rw [List.flatMap_cons, List.append_assoc]

theorem readRow_eq_error_iff {row : List ReplyField} {data : Octets} {fault : AuthFault} :
    readRow row data = .error fault ↔ FirstUnreadable row data fault := by
  induction row generalizing data with
  | nil => exact iff_of_false (fun h => by cases h) (not_firstUnreadable_nil data fault)
  | cons name names ih =>
    simp only [readRow, Outcome.bind_eq_error_iff, firstUnreadable_cons, readField_eq_error_iff,
      Prod.exists, readField_eq_ok_iff, ih]
    refine or_congr_right (exists_congr fun content => exists_congr fun rest => ?_)
    rw [and_assoc]
    refine and_congr_right fun _ => and_congr_right fun _ => ?_
    exact ⟨fun h => h.resolve_right (by simp [Except.pure, pure]), .inl⟩

/-! ## Rows that are cut short -/

/-- The octets of a row of fields with what they hold. -/
def encodeRow (row : List (ReplyField × Octets)) : Octets :=
  row.flatMap fun field => Field.encode field.2

theorem encodeRow_cons (name : ReplyField) (content : Octets)
    (row : List (ReplyField × Octets)) :
    encodeRow ((name, content) :: row) = Field.encode content ++ encodeRow row := rfl

/-- Whether a cut falls in a field of a row that starts at a position: behind the fields
before it, and not behind the whole field. -/
def CutIn (start : Nat) (row : List (ReplyField × Octets)) (cut : Nat) (name : ReplyField) :
    Prop :=
  ∃ (before : List (ReplyField × Octets)) (content : Octets)
    (after : List (ReplyField × Octets)),
    row = before ++ (name, content) :: after ∧
    start + (encodeRow before).length ≤ cut ∧
    cut < start + (encodeRow before).length + (Field.encode content).length

theorem CutIn.cons {start cut : Nat} {row : List (ReplyField × Octets)} {name : ReplyField}
    (first : ReplyField) (content : Octets)
    (h : CutIn (start + (Field.encode content).length) row cut name) :
    CutIn start ((first, content) :: row) cut name := by
  obtain ⟨before, held, after, rfl, hfrom, hto⟩ := h
  refine ⟨(first, content) :: before, held, after, rfl, ?_, ?_⟩
  · rw [encodeRow_cons, List.length_append]
    omega
  · rw [encodeRow_cons, List.length_append]
    omega

/-- A row that is cut short fails for the field the cut falls in. -/
theorem readRow_take {row : List (ReplyField × Octets)}
    (h : ∀ field ∈ row, field.2.length ≤ Field.longest) {kept : Nat}
    (hcut : kept < (encodeRow row).length) (start : Nat) :
    ∃ name expected actual, CutIn start row (start + kept) name ∧
      readRow (row.map Prod.fst) ((encodeRow row).take kept) =
        .error (.fieldTooShort name expected actual) := by
  induction row generalizing kept start with
  | nil => exact absurd hcut (Nat.not_lt_zero kept)
  | cons field row ih =>
    obtain ⟨name, content⟩ := field
    obtain ⟨hcontent, hrow⟩ := List.forall_mem_cons.mp h
    simp only [readRow_eq_error_iff, List.map_cons, encodeRow_cons] at ih hcut ⊢
    rcases Nat.lt_or_ge kept (Field.encode content).length with hfirst | hbehind
    · obtain ⟨expected, actual, hfault⟩ := unreadable_take hcontent hfirst name
      refine ⟨name, expected, actual, ⟨[], content, row, rfl, ?_, ?_⟩, ?_⟩
      · exact Nat.le_add_right start kept
      · exact Nat.add_lt_add_left hfirst start
      · rw [List.take_append_of_le_length (Nat.le_of_lt hfirst)]
        exact firstUnreadable_cons.mpr (.inl hfault)
    · -- The first field is whole, so the cut falls in one of the others.
      obtain ⟨later, rfl⟩ := Nat.exists_eq_add_of_le hbehind
      rw [List.length_append] at hcut
      obtain ⟨other, expected, actual, hin, hfault⟩ :=
        ih hrow (Nat.lt_of_add_lt_add_left hcut) (start + (Field.encode content).length)
      refine ⟨other, expected, actual, ?_, ?_⟩
      · rw [← Nat.add_assoc]
        exact hin.cons name content
      · rw [List.take_length_add_append]
        exact firstUnreadable_cons.mpr (.inr ⟨content, _, hcontent, rfl, hfault⟩)

/-! ## UMTS replies -/

def UmtsTag.row : UmtsTag → List ReplyField
  | .success => [.res, .ck, .ik]
  | .syncFailure => [.auts]

/-- The fields of an answer, each with its name. -/
def UmtsResult.row : UmtsResult → List (ReplyField × Octets)
  | .success res ck ik => [(.res, res), (.ck, ck), (.ik, ik)]
  | .syncFailure auts => [(.auts, auts)]

theorem UmtsResult.encode_eq_row (r : UmtsResult) : r.encode = r.tag.code :: encodeRow r.row := by
  cases r <;> rfl

theorem UmtsResult.map_fst_row (r : UmtsResult) : r.row.map Prod.fst = r.tag.row := by
  cases r <;> rfl

theorem UmtsResult.forall_mem_row {r : UmtsResult} (h : r.Encodable) :
    ∀ field ∈ r.row, field.2.length ≤ Field.longest := by
  cases r <;> simpa [row, Encodable, fields] using h

namespace Umts

theorem readFields_row (tag : UmtsTag) (data : Octets) :
    (readFields tag data).map (fun p => (p.1.fields, p.2)) = readRow tag.row data := by
  cases tag with
  | success =>
    simp only [readFields, UmtsTag.row, readRow, bind, Except.bind]
    cases readField .res data with
    | error fault => rfl
    | ok p =>
      simp only
      cases readField .ck p.2 with
      | error fault => rfl
      | ok q =>
        simp only
        cases readField .ik q.2 <;> rfl
  | syncFailure =>
    simp only [readFields, UmtsTag.row, readRow, bind, Except.bind]
    cases readField .auts data <;> rfl

theorem readFields_eq_error_iff {tag : UmtsTag} {data : Octets} {fault : AuthFault} :
    readFields tag data = .error fault ↔ FirstUnreadable tag.row data fault := by
  rw [← readRow_eq_error_iff, ← readFields_row, Outcome.map_eq_error_iff]

theorem ofOctet_eq_error_iff {b : UInt8} {fault : AuthFault} :
    UmtsTag.ofOctet b = .error fault ↔ b ≠ 0xdb ∧ b ≠ 0xdc ∧ fault = .unknownTag b := by
  simp only [UmtsTag.ofOctet, UmtsTag.code]
  by_cases hsuccess : b = 0xdb
  · simp [hsuccess]
  · by_cases hsync : b = 0xdc
    · simp [hsync]
    · simp [hsuccess, hsync, eq_comm]

/-- The fault of a reply is about its lack of a tag, its tag, or the first field behind
that cannot be read. -/
theorem decode_eq_error_iff {data : Octets} {fault : AuthFault} :
    (decode data).value = .error fault ↔
      (data = [] ∧ fault = .replyTooShort 0) ∨
      ∃ b behind, data = b :: behind ∧
        ((b ≠ 0xdb ∧ b ≠ 0xdc ∧ fault = .unknownTag b) ∨
          (b = 0xdb ∧ FirstUnreadable [.res, .ck, .ik] behind fault) ∨
          (b = 0xdc ∧ FirstUnreadable [.auts] behind fault)) := by
  rw [decode_value, Outcome.map_eq_error_iff]
  cases data with
  | nil => simp [readTagged, eq_comm]
  | cons b behind =>
    simp only [readTagged, Outcome.bind_eq_error_iff, ofOctet_eq_error_iff, ofOctet_eq_ok_iff,
      readFields_eq_error_iff]
    refine ⟨?_, ?_⟩
    · intro h
      rcases h with hunknown | ⟨tag, hb, hrow⟩
      · exact .inr ⟨b, behind, rfl, .inl hunknown⟩
      · cases tag with
        | success => exact .inr ⟨b, behind, rfl, .inr (.inl ⟨hb, hrow⟩)⟩
        | syncFailure => exact .inr ⟨b, behind, rfl, .inr (.inr ⟨hb, hrow⟩)⟩
    · intro h
      obtain ⟨hnil, -⟩ | ⟨_, _, heq, hfault⟩ := h
      · cases hnil
      · cases heq
        rcases hfault with hunknown | ⟨hb, hrow⟩ | ⟨hb, hrow⟩
        · exact .inl hunknown
        · exact .inr ⟨.success, hb, hrow⟩
        · exact .inr ⟨.syncFailure, hb, hrow⟩

/-- A reply with nothing left over that is cut behind its tag fails for the field the cut
falls in. -/
theorem decode_take {data : Octets} {r : UmtsResult} (h : readTagged data = .ok (r, []))
    {kept : Nat} (hcut : kept + 1 < data.length) :
    ∃ name expected actual, CutIn 1 r.row (kept + 1) name ∧
      (decode (data.take (kept + 1))).value = .error (.fieldTooShort name expected actual) := by
  obtain ⟨henc, hdata⟩ := readTagged_eq_ok_iff.mp h
  rw [List.append_nil, UmtsResult.encode_eq_row] at hdata
  subst hdata
  obtain ⟨name, expected, actual, hin, hfault⟩ :=
    readRow_take (UmtsResult.forall_mem_row henc) (Nat.lt_of_succ_lt_succ hcut) 1
  refine ⟨name, expected, actual, by rwa [Nat.add_comm kept 1], ?_⟩
  rw [UmtsResult.map_fst_row, ← readFields_row, Outcome.map_eq_error_iff] at hfault
  rw [decode_value, Outcome.map_eq_error_iff, List.take_succ_cons, readTagged,
    ofOctet_eq_ok_iff.mpr rfl]
  exact hfault

end Umts

/-! ## GSM replies in the counted layout -/

/-- The fields of a record in the counted layout, each with its name. -/
def GsmRecord.row (r : GsmRecord) : List (ReplyField × Octets) := [(.sres, r.sres), (.kc, r.kc)]

namespace Gsm

/-- A reply that is no short one is read as a row of fields. -/
theorem readCounted_row {data : Octets} (h : shortestReply < data.length) :
    (readCounted data).map (fun p => ([p.1.sres, p.1.kc], p.2)) = readRow [.sres, .kc] data := by
  simp only [readCounted, Nat.not_le.mpr h, if_false, readRow, bind, Except.bind, pure,
    Except.pure]
  cases readField .sres data with
  | error fault => rfl
  | ok p =>
    simp only
    cases readField .kc p.2 <;> rfl

theorem readCounted_eq_error_iff {data : Octets} {fault : AuthFault}
    (h : shortestReply < data.length) :
    readCounted data = .error fault ↔ FirstUnreadable [.sres, .kc] data fault := by
  rw [← readRow_eq_error_iff, ← readCounted_row h, Outcome.map_eq_error_iff]

theorem decodeCounted_eq_error_iff {data : Octets} {fault : AuthFault} :
    (decodeCounted data).value = .error fault ↔
      (data.length ≤ 4 ∧ fault = .replyTooShort data.length) ∨
      (4 < data.length ∧ FirstUnreadable [.sres, .kc] data fault) := by
  rw [decodeCounted_value, Outcome.map_eq_error_iff]
  rcases Nat.lt_or_ge shortestReply data.length with hlong | hshort
  · rw [readCounted_eq_error_iff hlong]
    unfold shortestReply at hlong
    simp [hlong, Nat.not_le.mpr hlong]
  · rw [readCounted_of_short hshort]
    unfold shortestReply at hshort
    simp [hshort, Nat.not_lt.mpr hshort, eq_comm]

/-- A reply with nothing left over that is cut behind its first five octets or later fails
for the field the cut falls in. -/
theorem decodeCounted_take {data : Octets} {r : GsmRecord} (h : readCounted data = .ok (r, []))
    {kept : Nat} (hlong : 4 < kept) (hcut : kept < data.length) :
    ∃ name expected actual, CutIn 0 r.row kept name ∧
      (decodeCounted (data.take kept)).value = .error (.fieldTooShort name expected actual) := by
  obtain ⟨-, hsres, hkc, hdata⟩ := readCounted_eq_ok_iff.mp h
  have hrow : data = encodeRow r.row := by
    simp [hdata, encodeRow, GsmRecord.row]
  have hfields : ∀ field ∈ r.row, field.2.length ≤ Field.longest := by
    simpa [GsmRecord.row] using And.intro hsres hkc
  rw [hrow] at hcut
  obtain ⟨name, expected, actual, hin, hfault⟩ := readRow_take hfields hcut 0
  rw [Nat.zero_add] at hin
  refine ⟨name, expected, actual, hin, ?_⟩
  have hkept : (data.take kept).length = kept := by
    rw [List.length_take, hrow]
    omega
  rw [← hrow] at hfault
  exact decodeCounted_eq_error_iff.mpr
    (.inr ⟨by rw [hkept]; exact hlong, readRow_eq_error_iff.mp hfault⟩)

end Gsm

/-! ## Both decoders -/

/-- The fault of a UMTS reply is that it is empty, that its tag is unknown, or that of the
first of its fields that cannot be read; the fault of a GSM reply in the counted layout is
that it has at most four octets, or that of the first of SRES and Kc that cannot be read.
Where a reply is accepted with nothing left over, every part of it that starts where it
starts is refused, and the fault names the field in which it ends, unless the part is empty
or, for GSM, has at most four octets. -/
theorem fault_names_first_faulty_field (data : Octets) :
    (∀ fault, (Umts.decode data).value = .error fault ↔
      (data = [] ∧ fault = .replyTooShort 0) ∨
      ∃ b behind, data = b :: behind ∧
        ((b ≠ 0xdb ∧ b ≠ 0xdc ∧ fault = .unknownTag b) ∨
          (b = 0xdb ∧ FirstUnreadable [.res, .ck, .ik] behind fault) ∨
          (b = 0xdc ∧ FirstUnreadable [.auts] behind fault))) ∧
    (∀ fault, (Gsm.decodeCounted data).value = .error fault ↔
      (data.length ≤ 4 ∧ fault = .replyTooShort data.length) ∨
      (4 < data.length ∧ FirstUnreadable [.sres, .kc] data fault)) ∧
    (∀ r kept, Umts.readTagged data = .ok (r, []) → kept < data.length →
      (kept = 0 ∧ (Umts.decode (data.take kept)).value = .error (.replyTooShort 0)) ∨
      ∃ name expected actual, CutIn 1 r.row kept name ∧
        (Umts.decode (data.take kept)).value = .error (.fieldTooShort name expected actual)) ∧
    (∀ r kept, Gsm.readCounted data = .ok (r, []) → kept < data.length →
      (kept ≤ 4 ∧ (Gsm.decodeCounted (data.take kept)).value = .error (.replyTooShort kept)) ∨
      (4 < kept ∧ ∃ name expected actual, CutIn 0 r.row kept name ∧
        (Gsm.decodeCounted (data.take kept)).value =
          .error (.fieldTooShort name expected actual))) := by
  refine ⟨fun fault => Umts.decode_eq_error_iff, fun fault => Gsm.decodeCounted_eq_error_iff,
    ?_, ?_⟩
  · intro r kept h hcut
    cases kept with
    | zero => exact .inl ⟨rfl, rfl⟩
    | succ kept => exact .inr (Umts.decode_take h hcut)
  · intro r kept h hcut
    rcases Nat.lt_or_ge 4 kept with hlong | hshort
    · exact .inr ⟨hlong, Gsm.decodeCounted_take h hlong hcut⟩
    · have hkept : (data.take kept).length = kept := by
        rw [List.length_take]
        omega
      refine .inl ⟨hshort, Gsm.decodeCounted_eq_error_iff.mpr (.inl ?_)⟩
      rw [hkept]
      exact ⟨hshort, rfl⟩

/-- A UMTS reply that ends where the length of CK should stand, and a GSM reply that ends
inside Kc. -/
theorem replies_cut_in_front_of_and_inside_a_key :
    Umts.readTagged [0xdb, 2, 1, 2, 0, 1, 9] = .ok (.success [1, 2] [] [9], []) ∧
    4 < [0xdb, 2, 1, 2, 0, 1, 9].length ∧
    (Umts.decode [0xdb, 2, 1, 2]).value = .error (.fieldTooShort .ck 1 0) ∧
    (∃ name expected actual, CutIn 1 [(.res, [1, 2]), (.ck, []), (.ik, [9])] 4 name ∧
      (Umts.decode [0xdb, 2, 1, 2]).value = .error (.fieldTooShort name expected actual)) ∧
    Gsm.readCounted [1, 7, 3, 0xaa, 0xbb, 0xcc] = .ok (⟨[0xaa, 0xbb, 0xcc], [7]⟩, []) ∧
    5 < [1, 7, 3, 0xaa, 0xbb, 0xcc].length ∧
    (Gsm.decodeCounted [1, 7, 3, 0xaa, 0xbb]).value = .error (.fieldTooShort .kc 3 2) ∧
    ∃ name expected actual, CutIn 0 [(.sres, [7]), (.kc, [0xaa, 0xbb, 0xcc])] 5 name ∧
      (Gsm.decodeCounted [1, 7, 3, 0xaa, 0xbb]).value =
        .error (.fieldTooShort name expected actual) := by
  have humts : Umts.readTagged [0xdb, 2, 1, 2, 0, 1, 9] = .ok (.success [1, 2] [] [9], []) := rfl
  have hgsm : Gsm.readCounted [1, 7, 3, 0xaa, 0xbb, 0xcc] =
    .ok (⟨[0xaa, 0xbb, 0xcc], [7]⟩, []) := rfl
  obtain ⟨-, -, hcut, -⟩ := fault_names_first_faulty_field [0xdb, 2, 1, 2, 0, 1, 9]
  obtain ⟨-, -, -, hcut'⟩ := fault_names_first_faulty_field [1, 7, 3, 0xaa, 0xbb, 0xcc]
  refine ⟨humts, by decide, rfl, ?_, hgsm, by decide, rfl, ?_⟩
  · exact (hcut _ 4 humts (by decide)).resolve_left (by simp)
  · exact ((hcut' _ 5 hgsm (by decide)).resolve_left (by simp)).2

end CarrierAuth
