import Mathlib.Data.List.Forall2
import PayoffLexer.Proofs.Toml.Documents
import PayoffLexer.Proofs.Toml.Forms
import PayoffLexer.Proofs.Vocabulary.Lookup

/-!
# Settings that are read back

Of a codec two things are asked: that it writes an entry for each setting, every text in a form that
fits it, and that it reads TOML. What it writes is TOML, and the entries have the types that
settings take, whatever texts are to be reserved. So reading gives the settings again, unless one of
the texts is not a word.
-/

namespace PayoffLexer.Settings

/-- The codec writes the two lines with each text in one of the forms that fit it. -/
def Codec.WritesForms (codec : Codec) : Prop :=
  ∀ settings : Settings, ∃ words,
    List.Forall₂ (fun keyword word => Toml.Written keyword.toList word.toList) settings.keywords
      words ∧
    codec.write settings = .ok (Toml.layout words settings.exponents)

/-- The codec reads documents of TOML whose entries are those of settings. -/
def Codec.ReadsToml (codec : Codec) : Prop :=
  ∀ entries text settings, Toml.Document entries text → Toml.settingsOf entries = .ok settings →
    codec.read text = .ok settings

theorem textsOf?_array (texts : List String) :
    Toml.textsOf? (.array (texts.map .string)) = some texts := by
  rw [Toml.textsOf?]
  induction texts with
  | nil => rfl
  | cons text texts ih => simp [Toml.textOf?, ih]

theorem setting_eq_ok {α : Type} {entries : Toml.Entries} {key : String} {value : Toml.Value}
    {read : Toml.Value → Option α} {found missing : α} (hlookup : entries.lookup key = some value)
    (hread : read value = some found) : Toml.setting entries key read missing = .ok found := by
  rw [Toml.setting, hlookup]
  simp only [hread]

def entries (settings : Settings) : Toml.Entries :=
  [(keywordsKey, .array (settings.keywords.map .string)),
    (exponentsKey, .boolean settings.exponents)]

theorem settingsOf_entries (settings : Settings) :
    Toml.settingsOf settings.entries = .ok settings := by
  have hkeywords : settings.entries.lookup keywordsKey =
      some (.array (settings.keywords.map .string)) := rfl
  have hexponents : settings.entries.lookup exponentsKey = some (.boolean settings.exponents) := rfl
  have hflag : Toml.flagOf? (.boolean settings.exponents) = some settings.exponents := rfl
  rw [Toml.settingsOf, setting_eq_ok hkeywords (textsOf?_array settings.keywords),
    setting_eq_ok hexponents hflag]
  rfl

theorem Codec.WritesForms.exists_document {codec : Codec} (h : codec.WritesForms)
    (settings : Settings) :
    ∃ text, codec.write settings = .ok text ∧ Toml.Document settings.entries text := by
  obtain ⟨words, hwords, hwrite⟩ := h settings
  have hquoted := hwords.imp fun _ _ => Toml.Written.quoted
  exact ⟨_, hwrite, Toml.document_layout settings.exponents hquoted⟩

theorem ofToml_eq {codec : Codec} {text : String} {settings : Settings}
    (hread : codec.read text = .ok settings) :
    ofToml codec text =
      match settings.keywords.find? fun word => !isWord word with
      | none => .ok settings
      | some word => .error (.invalidKeyword word) := by
  rw [ofToml, hread]
  change settings.validate.bind (fun _ => .ok settings) = _
  rw [validate_eq]
  cases settings.keywords.find? fun word => !isWord word <;> rfl

/-- Settings are always written, and their document is read as those settings if all their keywords
are words; otherwise the first that is not is the only thing wrong. -/
theorem ofToml_toToml (codec : Codec) (hwrites : codec.WritesForms) (hreads : codec.ReadsToml)
    (settings : Settings) :
    ∃ text, settings.toToml codec = .ok text ∧
      ofToml codec text =
        match settings.keywords.find? fun word => !isWord word with
        | none => .ok settings
        | some word => .error (.invalidKeyword word) := by
  obtain ⟨text, hwrite, hdocument⟩ := hwrites.exists_document settings
  have hread := hreads _ text settings hdocument (settingsOf_entries settings)
  refine ⟨text, ?_, ofToml_eq hread⟩
  rw [toToml, hwrite]
  rfl

theorem codec_writesForms : Toml.codec.WritesForms := by
  intro settings
  refine ⟨settings.keywords.map Toml.writeString, ?_, rfl⟩
  rw [List.forall₂_map_right_iff, List.forall₂_same]
  intro keyword _
  rw [Toml.writeString, String.toList_ofList]
  exact Toml.written_of keyword.toList

theorem codec_readsToml : Toml.codec.ReadsToml := by
  intro entries text settings hdocument hsettings
  rw [Toml.codec]
  simp only [hdocument.read, hsettings]

theorem ofToml_toToml_quotes :
    Toml.codec.WritesForms ∧ Toml.codec.ReadsToml ∧
      ∃ text, toToml Toml.codec ⟨["STRIKE", "a \"b\" 'c'\\\n\x00", "d e"], false⟩ = .ok text ∧
        ofToml Toml.codec text = .error (.invalidKeyword "a \"b\" 'c'\\\n\x00") := by
  refine ⟨codec_writesForms, codec_readsToml, ?_⟩
  have hfirst : ["STRIKE", "a \"b\" 'c'\\\n\x00", "d e"].find? (fun word => !isWord word) =
      some "a \"b\" 'c'\\\n\x00" := by
    decide +kernel
  simpa only [hfirst] using ofToml_toToml Toml.codec codec_writesForms codec_readsToml
    ⟨["STRIKE", "a \"b\" 'c'\\\n\x00", "d e"], false⟩

end PayoffLexer.Settings
