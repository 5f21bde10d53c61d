import CarrierAuth.Proofs.Card.WhiteSpace

/-
  The two layouts of GSM — a card that speaks the fixed layout can stand behind one
  that speaks the counted layout, and no batch of challenges tells them apart.

  The card in front takes the length off each challenge before it passes it on, and
  writes the lengths of SRES and Kc in front of them in each reply. What must match is
  the whole batch: challenges that are left out, replies that cannot be used and the
  state in which the card behind is left.

  What is proved:
    1. `Card.counted_command` — a challenge reaches the card behind as the fixed
       layout sends it, whatever its length octet says.
    2. `Gsm.outcome_countedReply` — both replies come to the same record, or to the
       same fault.
    3. `Gsm.counted_simulates_fixed` — so do batches.
-/
namespace CarrierAuth

variable {σ : Type}

namespace Card

/-- The octets of a reply in the counted layout, made from those in the fixed one. -/
def countedOctets (data : Octets) : Octets :=
  [4] ++ data.extract 0 4 ++ [8] ++ data.extract 4 12

/-- The text of a reply in the counted layout, made from that in the fixed one. -/
def countedReply (text : String) : Option String :=
  match readBase64 text with
  | .ok data => some (Base64.encode (countedOctets data))
  | .error _ => none

/-- The card that speaks the counted layout in front of one that speaks the fixed
layout. It does not answer what is no Base64 text. -/
def counted (card : Card σ) : Card σ := fun s c =>
  match readBase64 c.challenge with
  | .ok data =>
    let (reply, s') := card s { c with challenge := Base64.encode (data.drop 1) }
    (reply.bind countedReply, s')
  | .error _ => (none, s)

/-- Whether a card answers every command with twelve octets or not at all. -/
def SpeaksFixed (card : Card σ) : Prop :=
  ∀ s c, (card s c).1 = none ∨
    ∃ data : Octets, data.length = 12 ∧ (card s c).1 = some (Base64.encode data)

/-- The card behind is asked what the fixed layout asks. -/
theorem counted_command (card : Card σ) (s : σ) (app : CardApp) (length : UInt8)
    (rand : Octets) :
    card.counted s (Gsm.command app (length :: rand)) =
      ((card s (Gsm.command app rand)).1.bind countedReply,
        (card s (Gsm.command app rand)).2) := by
  rw [counted, Gsm.command, readBase64, Base64.decode_encode, Outcome.mapError_ok]
  rfl

end Card

namespace Gsm

theorem replyOctets_encode {data : Octets} (h : 3 < data.length) :
    replyOctets (some (Base64.encode data)) = .ok data := by
  have hdecode := Base64.decode_encode data
  exact replyOctets_eq_ok_iff.mpr ⟨lt_octetLength_of_decode hdecode h, hdecode⟩

/-- Twelve octets are the two fields of the counted layout, one behind the other. -/
theorem countedOctets_eq {data : Octets} (h : data.length = 12) :
    Card.countedOctets data =
      Field.encode (data.take 4) ++ Field.encode (data.drop 4) ++ [] := by
  have htake : (data.take 4).length = 4 := by
    rw [List.length_take]
    omega
  have hdrop : (data.drop 4).length = 8 := by
    rw [List.length_drop]
    omega
  have hrest : (data.drop 4).take 8 = data.drop 4 := by
    rw [List.take_of_length_le (by omega)]
  rw [Card.countedOctets, Field.encode, Field.encode, htake, hdrop,
    List.extract_eq_take_drop, List.extract_eq_take_drop, List.drop_zero, hrest]
  simp

theorem decodeCounted_countedOctets {data : Octets} (h : data.length = 12) :
    (decodeCounted (Card.countedOctets data)).value = readFixed data := by
  have hfixed : readFixed data = .ok ⟨data.drop 4, data.take 4⟩ := if_pos h
  rw [hfixed, countedOctets_eq h]
  apply decodeCounted_eq_ok_iff.mpr
  refine ⟨?_, ?_, ?_, [], rfl⟩
  · show 4 < _
    simp only [Field.encode, List.length_append, List.length_cons, List.length_take,
      List.length_drop]
    omega
  · rw [List.length_take]
    unfold Field.longest
    omega
  · rw [List.length_drop]
    unfold Field.longest
    omega

theorem outcome_countedReply {reply : Option String}
    (h : reply = none ∨ ∃ data : Octets, data.length = 12 ∧ reply = some (Base64.encode data)) :
    outcome .counted (reply.bind Card.countedReply) = outcome .fixed reply := by
  rcases h with rfl | ⟨data, hlength, rfl⟩
  · rfl
  · have hreply : (some (Base64.encode data)).bind Card.countedReply =
        some (Base64.encode (Card.countedOctets data)) := by
      show Card.countedReply (Base64.encode data) = _
      rw [Card.countedReply, readBase64, Base64.decode_encode, Outcome.mapError_ok]
    have hlong : 3 < (Card.countedOctets data).length := by
      rw [countedOctets_eq hlength]
      simp only [Field.encode, List.length_append, List.length_cons, List.length_take,
        List.length_drop]
      omega
    calc outcome .counted ((some (Base64.encode data)).bind Card.countedReply)
        = (decodeCounted (Card.countedOctets data)).value := by
          rw [hreply, outcome, replyOctets_encode hlong]
          rfl
      _ = readFixed data := decodeCounted_countedOctets hlength
      _ = outcome .fixed (some (Base64.encode data)) := by
          rw [outcome, replyOctets_encode (by omega)]
          rfl

/-- The card in front and the card behind go through the challenges in step. -/
theorem exchange_counted {card : Card σ} (h : card.SpeaksFixed) (app : CardApp)
    (texts : List String) (s : σ) :
    let front := exchange card.counted .counted s (texts.map (challengeCommand .counted app))
    let behind := exchange card .fixed s (texts.map (challengeCommand .fixed app))
    front.result = behind.result ∧ front.state = behind.state := by
  induction texts generalizing s with
  | nil => exact ⟨rfl, rfl⟩
  | cons text rest ih =>
    let asked := challengeCommand .fixed app text
    have hstep : card.counted s (challengeCommand .counted app text) =
        ((card s asked).1.bind Card.countedReply, (card s asked).2) :=
      card.counted_command s app _ (Hex.pairs text.toList)
    have houtcome := outcome_countedReply (h s asked)
    obtain ⟨hresult, hstate⟩ := ih (card s asked).2
    simp only [List.map_cons, exchange, hstep, houtcome]
    cases outcome .fixed (card s asked).1 with
    | error fault => exact ⟨rfl, rfl⟩
    | ok record => exact ⟨congrArg (Except.map (record :: ·)) hresult, hstate⟩

/-- A batch in the counted layout, answered by the card in front, gives what the batch
in the fixed layout gives when the card behind answers it, record by record or fault
by fault, and leaves the card behind in the same state. -/
theorem counted_simulates_fixed {card : Card σ} (h : card.SpeaksFixed) (app : CardApp)
    (challenges : List String) (s : σ) :
    let front := authenticate card.counted .counted app challenges
    let behind := authenticate card .fixed app challenges
    front.result s = behind.result s ∧
    (front.result s).map renderRecords = (behind.result s).map renderRecords ∧
    front.finalState s = behind.finalState s := by
  intro front behind
  have hfront : front.report s = exchange card.counted .counted s
      (wanted .counted app challenges) := report_answerFrom _ _ app 0 challenges s
  have hbehind : behind.report s = exchange card .fixed s (wanted .fixed app challenges) :=
    report_answerFrom _ _ app 0 challenges s
  obtain ⟨hresult, hstate⟩ := exchange_counted h app (challenges.filter (IsChallenge ·)) s
  have hsame : front.result s = behind.result s := by
    calc front.result s
        = (exchange card.counted .counted s (wanted .counted app challenges)).result :=
          congrArg Session.Report.result hfront
      _ = (exchange card .fixed s (wanted .fixed app challenges)).result := hresult
      _ = behind.result s := (congrArg Session.Report.result hbehind).symm
  refine ⟨hsame, by rw [hsame], ?_⟩
  calc front.finalState s
      = (exchange card.counted .counted s (wanted .counted app challenges)).state :=
        congrArg Session.Report.state hfront
    _ = (exchange card .fixed s (wanted .fixed app challenges)).state := hstate
    _ = behind.finalState s := (congrArg Session.Report.state hbehind).symm

/-- A card that counts its commands and refuses the third, behind another: both batches
leave out the malformed challenge, end with the missing reply and have asked three
times. -/
theorem counted_simulates_fixed_until_refusal :
    let card : Card Nat := fun n _ =>
      (if n = 2 then none else some (Base64.encode [1, 2, 3, 4, 5, 6, 7, 8, 9, 10, 11, 12]), n + 1)
    let challenges := ["0a0b", "", "0g", "0C", "0d"]
    card.SpeaksFixed ∧
    (authenticate card.counted .counted .sim ["0a0b"]).result 0 =
      .ok [⟨[5, 6, 7, 8, 9, 10, 11, 12], [1, 2, 3, 4]⟩] ∧
    (authenticate card.counted .counted .sim challenges).result 0 =
      (authenticate card .fixed .sim challenges).result 0 ∧
    (authenticate card .fixed .sim challenges).result 0 = .error .missingReply ∧
    (authenticate card.counted .counted .sim challenges).finalState 0 = 3 := by
  intro card challenges
  have hspeaks : card.SpeaksFixed := by
    intro n c
    by_cases hn : n = 2
    · exact Or.inl (if_pos hn)
    · exact Or.inr ⟨[1, 2, 3, 4, 5, 6, 7, 8, 9, 10, 11, 12], rfl, if_neg hn⟩
  obtain ⟨hone, -, -⟩ := counted_simulates_fixed hspeaks .sim ["0a0b"] 0
  obtain ⟨hall, -, hstate⟩ := counted_simulates_fixed hspeaks .sim challenges 0
  exact ⟨hspeaks, hone.trans rfl, hall, rfl, hstate.trans rfl⟩

end Gsm

end CarrierAuth
