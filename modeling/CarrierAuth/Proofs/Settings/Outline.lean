import CarrierAuth.Proofs.Yaml.Outline
import CarrierAuth.Proofs.Yaml.Spelling
import CarrierAuth.Settings.Text

/-
  The lines of settings — settings are written as an outline.

  There is one block for each carrier below the line of the table, and the line of the
  level. A table without carriers is written as empty braces, on its line.

  What is proved:
    1. `wellFormed_outline` — the keys and values of settings are words, whatever the
       numbers of the subscriptions.
    2. `toYaml_eq` — settings are written as the text of their outline.
-/
namespace CarrierAuth

open Yaml

/-! ## Outlines -/

def CarrierSettings.outline (c : CarrierSettings) : Outline :=
  .line "imsi_encryption_required".toList (.word (flagText c.encryptionRequired))
    (.line "eap_method_prefix_enabled".toList (.word (flagText c.digitEnabled)) .nil)

def CarrierTable.outline : List (SubscriptionId × CarrierSettings) → Outline
  | [] => .nil
  | e :: rest => .block (toString e.1.value).toList e.2.outline (outline rest)

def Level.outline (l : Level) : Outline := .line "log_level".toList (.word l.name.toList) .nil

def ClientSettings.outline (s : ClientSettings) : Outline :=
  if s.carriers.entries.isEmpty then .line "carriers".toList .braces s.logLevel.outline
  else .block "carriers".toList (CarrierTable.outline s.carriers.entries) s.logLevel.outline

theorem isWord_flagText (b : Bool) : IsWord (flagText b) := by
  cases b <;> exact isWord_of_all (by decide) (by decide)

theorem Level.wellFormed_outline (l : Level) : l.outline.WellFormed := by
  have hname : IsWord l.name.toList := by
    cases l <;> exact isWord_of_all (by decide) (by decide)
  exact ⟨⟨isWord_of_all (by decide) (by decide), by decide⟩, hname, trivial⟩

theorem CarrierSettings.wellFormed_outline (c : CarrierSettings) : c.outline.WellFormed :=
  ⟨⟨isWord_of_all (by decide) (by decide), by decide⟩, isWord_flagText _,
    ⟨isWord_of_all (by decide) (by decide), by decide⟩, isWord_flagText _, trivial⟩

theorem CarrierTable.wellFormed_outline (entries : List (SubscriptionId × CarrierSettings)) :
    (CarrierTable.outline entries).WellFormed := by
  induction entries with
  | nil => trivial
  | cons e rest ih =>
    have hrange := e.1.inRange
    have hpow : Nat.pow 2 64 = 18446744073709551616 := by decide
    exact ⟨isKey_toString (by omega), e.2.wellFormed_outline, ih⟩

theorem ClientSettings.wellFormed_outline (s : ClientSettings) : s.outline.WellFormed := by
  have hkey : IsKey "carriers".toList := ⟨isWord_of_all (by decide) (by decide), by decide⟩
  rw [outline]
  split
  · exact ⟨hkey, trivial, s.logLevel.wellFormed_outline⟩
  · exact ⟨hkey, CarrierTable.wellFormed_outline _, s.logLevel.wellFormed_outline⟩

/-! ## Writing -/

theorem writeEntries_line {indent : Nat} {key : Key} {value : Shape} {w : List Char}
    {entries : List (Key × Shape)} (hlines : takesLines value = false)
    (hvalue : ∀ indent, writeShape indent value = w ++ ['\n']) :
    writeEntries indent ((key, value) :: entries) =
      List.replicate indent ' ' ++ key.text.toList ++ ':' :: ' ' :: w ++ '\n' ::
        writeEntries indent entries := by
  rw [writeEntries, hlines, hvalue]
  simp

theorem writeShape_flag (b : Bool) (indent : Nat) :
    writeShape indent (.flag b) = flagText b ++ ['\n'] := by
  cases b <;> rfl

theorem writeShape_level (l : Level) (indent : Nat) :
    writeShape indent (Schema.level.write l) = l.name.toList ++ ['\n'] := by
  cases l <;> rfl

theorem writeEntries_level (indent : Nat) (l : Level) :
    writeEntries indent [(.name "log_level", Schema.level.write l)] = l.outline.text indent :=
  writeEntries_line rfl (writeShape_level l)

theorem writeShape_carrier (indent : Nat) (c : CarrierSettings) :
    writeShape indent (Schema.carrier.write c) = c.outline.text indent := by
  show writeEntries indent _ = _
  rw [writeEntries_line rfl (writeShape_flag _),
    writeEntries_line rfl (writeShape_flag _)]
  rfl

theorem writeEntries_carriers (indent : Nat)
    (entries : List (SubscriptionId × CarrierSettings)) :
    writeEntries indent (entries.map fun e => (.number e.1.value, Schema.carrier.write e.2)) =
      (CarrierTable.outline entries).text indent := by
  induction entries with
  | nil => rfl
  | cons e rest ih =>
    rw [List.map_cons, writeEntries, ih]
    show _ ++ _ ++ [':', '\n'] ++ writeShape (indent + step) (Schema.carrier.write e.2) ++ _ = _
    rw [writeShape_carrier, CarrierTable.outline, Outline.text]
    simp [Key.text]

theorem ClientSettings.toYaml_eq (s : ClientSettings) :
    s.toYaml = String.ofList (s.outline.text 0) := by
  have hcarriers := writeEntries_carriers step s.carriers.entries
  have hlevel := writeEntries_level 0 s.logLevel
  have hshape : writeShape 0 (Schema.settings.write s) =
      writeEntries 0 [(.name "carriers", .record (s.carriers.entries.map fun e =>
        (.number e.1.value, Schema.carrier.write e.2))),
        (.name "log_level", Schema.level.write s.logLevel)] := rfl
  rw [toYaml, write, outline, hshape]
  cases hentries : s.carriers.entries with
  | nil =>
    rw [List.map_nil, writeEntries_line (w := ['\x7b', '\x7d']) rfl (fun _ => rfl), hlevel]
    rfl
  | cons e rest =>
    rw [hentries] at hcarriers
    have hblock : writeShape step (.record ((e :: rest).map fun e =>
        (.number e.1.value, Schema.carrier.write e.2))) =
          (CarrierTable.outline (e :: rest)).text step := hcarriers
    rw [writeEntries, hlevel]
    show String.ofList (_ ++ _ ++ [':', '\n'] ++ writeShape step _ ++ _) = _
    rw [hblock]
    simp [Outline.text, Key.text]

/-- A subscription with a negative number is a key like any other. -/
example :
    let s : ClientSettings := { carriers := .ofList [({ value := -5 }, { digitEnabled := true })] }
    s.toYaml = "carriers:\n  -5:\n    imsi_encryption_required: false\n" ++
      "    eap_method_prefix_enabled: true\nlog_level: info\n" := by
  decide

end CarrierAuth
