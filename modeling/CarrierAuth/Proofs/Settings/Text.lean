import CarrierAuth.Proofs.Settings.Outline
import CarrierAuth.Proofs.Settings.Table
import CarrierAuth.Proofs.Yaml.OutlineLines
import CarrierAuth.Proofs.Yaml.OutlineNode

/-
  Settings survive YAML — what is written is read back as what it was, with or without the
  lines that state standard values.

  Reading gives the node of an outline and makes the settings of it. The outline is that of
  the settings, or a thinner one (`Thins`): a field that is left out of it has its standard
  value (`Stated`), and an entry without lines below its key stands for a carrier that asks
  for nothing.

  What is proved:
    1. `Stated.read_record` — a record of two fields is read, whichever of them are written.
    2. `read_carrier`, `read_carriers`, `read_thinned_settings` — each part is read from the
       node of its outline, also of a thinner one; for a table by induction on its entries.
    3. `yaml_round_trip` — settings are read back from their text.
    4. `standard_lines_say_nothing` — so they are without lines that state standard values.
-/
namespace CarrierAuth

open Yaml

/-! ## Reading -/

theorem read_flag (d : Document) (b : Bool) :
    Schema.flag.read d.format (Leaf.word (flagText b)).node = some b :=
  readFlag?_flagText b

theorem read_level (d : Document) (l : Level) :
    Schema.level.read d.format (Leaf.word l.name.toList).node = some l := by
  have hname : Level.ofName? l.name = some l := by
    cases l <;> decide
  show Level.ofName? (String.ofList l.name.toList) = some l
  rw [String.ofList_toList, hname]

/-! ## Records of two fields -/

/-- A field of a record that is written, or is left out as it has its standard value. -/
inductive Stated {α ν : Type} (s : Schema α) (f : Format ν) (name : String) (standard a : α) :
    List (String × ν) → Prop
  | written {node : ν} (h : s.read f node = some a) : Stated s f name standard a [(name, node)]
  | leftOut (h : a = standard) : Stated s f name standard a []

namespace Stated

variable {α β γ ν : Type} {s : Schema α} {t : Schema β} {f : Format ν} {name name' : String}
  {standard a : α} {standard' b : β} {own own' fields : List (String × ν)}

theorem lookup_of_ne (h : Stated s f name standard a own) (hne : name' ≠ name) :
    own.lookup name' = none := by
  cases h with
  | written hread =>
    rw [List.lookup_cons, beq_false_of_ne hne]
    rfl
  | leftOut hstandard => rfl

/-- A field is found where it is written, and has its standard value where it is not. -/
theorem fieldOr_eq (h : Stated s f name standard a own)
    (hlookup : fields.lookup name = own.lookup name) :
    s.fieldOr f name standard fields = some a := by
  rw [Schema.fieldOr, hlookup]
  cases h with
  | written hread => simpa using hread
  | leftOut hstandard =>
    rw [hstandard]
    rfl

theorem read_record (h : Stated s f name standard a own) (h' : Stated t f name' standard' b own')
    (hne : name ≠ name') {node : ν} (hnode : f.fields node = some (.named (own ++ own')))
    (make : α → β → γ) :
    (do let fields ← f.record [name, name'] node
        return make (← s.fieldOr f name standard fields)
          (← t.fieldOr f name' standard' fields)) = some (make a b) := by
  have hrecord : f.record [name, name'] node = some (own ++ own') := by
    rw [Format.record, hnode]
    cases h <;> cases h' <;> simp [Fields.arrange, allDistinct, hne]
  have hfirst : s.fieldOr f name standard (own ++ own') = some a := by
    refine h.fieldOr_eq ?_
    rw [List.lookup_append, h'.lookup_of_ne hne, Option.or_none]
  have hsecond : t.fieldOr f name' standard' (own ++ own') = some b := by
    refine h'.fieldOr_eq ?_
    rw [List.lookup_append, h.lookup_of_ne hne.symm, Option.none_or]
  rw [hrecord]
  show (s.fieldOr f name standard (own ++ own') >>= _) = _
  rw [hfirst]
  show (t.fieldOr f name' standard' (own ++ own') >>= _) = _
  rw [hsecond]
  rfl

end Stated

/-! ## Thinner outlines

Settings are read from their outline also where lines of standard values are left out. -/

/-- The lines that state standard values. -/
def standardLines : List String :=
  ["imsi_encryption_required: false", "eap_method_prefix_enabled: false", "log_level: info",
    "carriers: \x7b\x7d"]

/-- Whether the text of a line states a standard value. -/
def isStandard (l : List Char) : Bool := standardLines.any fun line => line.toList == l

section
variable {α : Type} {s : Schema α} {f : Format Node} {name : String} {value : Leaf}
  {rest o : Outline} {standard a : α}

theorem stated_line (h : Thins isStandard (.line name.toList value rest) o)
    (hread : s.read f value.node = some a)
    (hstandard : isStandard (name.toList ++ ':' :: ' ' :: value.text) = true → a = standard) :
    ∃ own rest', o.fields = own ++ rest'.fields ∧ Thins isStandard rest rest' ∧
      Stated s f name standard a own := by
  cases h with
  | keep hrest =>
    refine ⟨[(name, value.node)], _, ?_, hrest, .written hread⟩
    rw [Outline.fields, String.ofList_toList]
    rfl
  | drop hline hrest => exact ⟨[], o, rfl, hrest, .leftOut (hstandard hline)⟩

theorem stated_last (h : Thins isStandard (.line name.toList value .nil) o)
    (hread : s.read f value.node = some a)
    (hstandard : isStandard (name.toList ++ ':' :: ' ' :: value.text) = true → a = standard) :
    Stated s f name standard a o.fields := by
  obtain ⟨own, rest, hfields, hrest, hown⟩ := stated_line h hread hstandard
  cases hrest
  rw [hfields]
  simpa [Outline.fields] using hown

end

theorem read_carrier (d : Document) {c : CarrierSettings} {o : Outline}
    (h : Thins isStandard c.outline o) : Schema.carrier.read d.format o.node = some c := by
  have hencryption : isStandard ("imsi_encryption_required".toList ++ ':' :: ' ' ::
      flagText c.encryptionRequired) = true → c.encryptionRequired = false := by
    cases c.encryptionRequired <;> decide
  have hdigit : isStandard ("eap_method_prefix_enabled".toList ++ ':' :: ' ' ::
      flagText c.digitEnabled) = true → c.digitEnabled = false := by
    cases c.digitEnabled <;> decide
  obtain ⟨own, rest, hfields, hrest, hown⟩ :=
    stated_line h (read_flag d c.encryptionRequired) hencryption
  have hlast := stated_last hrest (read_flag d c.digitEnabled) hdigit
  have hnode : d.format.fields o.node = some (.named (own ++ rest.fields)) :=
    hfields ▸ fields?_node d o
  exact hown.read_record hlast (by decide) hnode CarrierSettings.mk

/-- Every entry of a table keeps its place, also where no line below its key is left. -/
theorem readEntries_carriers (d : Document) {entries : List (SubscriptionId × CarrierSettings)}
    {o : Outline} (h : Thins isStandard (CarrierTable.outline entries) o) :
    ∃ nodes, d.table? o.node = some nodes ∧
      nodes.mapM (Schema.readCarrierEntry d.format) = some entries := by
  have htable (o : Outline) : d.table? o.node = o.entries.mapM fun e => do
      return (← d.integer? e.1, e.2) := by
    rw [Document.table?, entries?_node]
    rfl
  induction entries generalizing o with
  | nil =>
    cases h
    exact ⟨[], rfl, rfl⟩
  | cons e rest ih =>
    obtain ⟨inner, more, rfl, hinner, hmore⟩ := h.exists_block
    obtain ⟨nodes, hnodes, hread⟩ := ih hmore
    have hid : d.integer? (.scalar none .plain (toString e.1.value).toList) =
        some e.1.value := readInteger?_toString e.1.value
    rw [htable] at hnodes
    refine ⟨(e.1.value, inner.node) :: nodes, ?_, ?_⟩
    · rw [htable, Outline.entries, List.mapM_cons, hnodes, hid]
      rfl
    · rw [List.mapM_cons, hread, Schema.readCarrierEntry, SubscriptionId.ofInt?_value,
        read_carrier d hinner]
      rfl

theorem read_carriers (d : Document) {t : CarrierTable} {o : Outline}
    (h : Thins isStandard (CarrierTable.outline t.entries) o) :
    Schema.carriers.read d.format o.node = some t := by
  obtain ⟨nodes, htable, hnodes⟩ := readEntries_carriers d h
  show (d.table? o.node >>= _) = _
  rw [htable]
  show (nodes.mapM (Schema.readCarrierEntry d.format) >>= _) = _
  rw [hnodes]
  exact congrArg some t.ofList_entries

/-- Settings have the field of their carriers, which is read as their table also where it is
written as empty braces, and that of their level. -/
theorem stated_carriers (d : Document) {s : ClientSettings} {o : Outline}
    (h : Thins isStandard s.outline o) :
    ∃ own rest', o.fields = own ++ rest'.fields ∧ Thins isStandard s.logLevel.outline rest' ∧
      Stated Schema.carriers d.format "carriers" .empty s.carriers own := by
  rw [ClientSettings.outline] at h
  by_cases hempty : s.carriers.entries.isEmpty = true
  · have hcarriers : s.carriers = .empty := CarrierTable.ext (List.isEmpty_iff.mp hempty)
    rw [if_pos hempty] at h
    exact stated_line h (congrArg some hcarriers.symm) (fun _ => hcarriers)
  · rw [if_neg hempty] at h
    obtain ⟨inner, rest, rfl, hinner, hrest⟩ := h.exists_block
    exact ⟨_, rest, rfl, hrest, .written (read_carriers d hinner)⟩

theorem read_thinned_settings (d : Document) {s : ClientSettings} {o : Outline}
    (h : Thins isStandard s.outline o) : Schema.settings.read d.format o.node = some s := by
  have hlevel : isStandard ("log_level".toList ++ ':' :: ' ' :: s.logLevel.name.toList) = true →
      s.logLevel = .standard := by
    cases s.logLevel <;> decide
  obtain ⟨own, rest, hfields, hrest, hown⟩ := stated_carriers d h
  have hlast := stated_last hrest (read_level d s.logLevel) hlevel
  have hnode : d.format.fields o.node = some (.named (own ++ rest.fields)) :=
    hfields ▸ fields?_node d o
  exact hown.read_record hlast (by decide) hnode ClientSettings.mk

theorem read_settings (d : Document) (s : ClientSettings) :
    Schema.settings.read d.format s.outline.node = some s :=
  read_thinned_settings d (.refl s.outline)

/-- **Settings survive YAML.** They are read back from the text they are written as; so
settings that were read from some text stay as they are when written and read again. -/
theorem ClientSettings.yaml_round_trip :
    (∀ s : ClientSettings, ofYaml? s.toYaml = some s) ∧
      ∀ text : String, (ofYaml? text).bind (fun s => ofYaml? s.toYaml) = ofYaml? text := by
  have hround (s : ClientSettings) : ofYaml? s.toYaml = some s := by
    rw [s.toYaml_eq, ofYaml?, read_outline Schema.settings s.wellFormed_outline]
    exact read_settings _ s
  refine ⟨hround, fun text => ?_⟩
  cases htext : ofYaml? text with
  | none => rfl
  | some s => exact hround s

/-- No line that states a standard value is that of a key alone. -/
theorem isStandard_concat_colon (l : List Char) : isStandard (l ++ [':']) = false := by
  have hlast : ∀ line ∈ standardLines, line.toList.getLast? ≠ some ':' := by decide
  refine List.any_eq_false.mpr fun line hline heq => hlast line hline ?_
  rw [beq_iff_eq.mp heq, List.getLast?_concat]

/-- **Lines that state standard values say nothing.** Whichever of them are left out of the
text of settings, down to a text without lines, it is read as what it was. -/
theorem ClientSettings.standard_lines_say_nothing (s : ClientSettings) (chosen : Nat → Bool) :
    ofYaml? (withoutLines isStandard chosen s.toYaml) = ofYaml? s.toYaml ∧
      ofYaml? (withoutLines isStandard chosen s.toYaml) = some s := by
  have hread {o : Outline} (h : Thins isStandard s.outline o) :
      ofYaml? (String.ofList (o.text 0)) = some s := by
    rw [ofYaml?, read_outline Schema.settings (h.wellFormed s.wellFormed_outline)]
    exact read_thinned_settings _ h
  obtain ⟨o, hthins, htext⟩ :=
    exists_withoutLines (by decide) isStandard_concat_colon chosen s.wellFormed_outline
  rw [s.toYaml_eq, htext, hread hthins, hread (.refl _)]
  exact ⟨rfl, rfl⟩

/-- The carrier of a subscription stays in the table where nothing is said of it. -/
example :
    let s : ClientSettings := { carriers := .ofList [({ value := 7 }, {})] }
    withoutLines isStandard (fun _ => true) s.toYaml = "carriers:\n  7:\n" := by
  decide +kernel

end CarrierAuth
