import RollingIndex.Config.Basic
import RollingIndex.Toml.Reader

/-!
# Configuration files

A configuration is read from TOML text with the sections `indexer`, `retention` and `server`. Keys
that are no settings are passed over. A section may be an array instead of a table; its items are
then the settings in their order, and settings without an item have their defaults. A time in place
of a section has no settings. A value of the wrong kind, or an integer outside the bounds of a
setting, is a fault.
-/

namespace RollingIndex

namespace Config

/-! ## Settings -/

/-- A text. -/
def textSetting : Toml → Option String
  | .text s => some s
  | _ => none

/-- A natural number of so many bits. -/
def natSetting (bits : Nat) : Toml → Option Nat
  | .integer (.ofNat n) => if fitsBits bits n then some n else none
  | _ => none

/-- What is given for the settings of a section. -/
structure Section where
  /-- the value given for the setting of a key at a place, if one is given -/
  given : String → Nat → Option Toml

namespace Section

/-- A section without settings. -/
def empty : Section := ⟨fun _ _ => none⟩

/-- The settings in a value that stands for a section. -/
def ofToml? : Toml → Option Section
  | .table _ entries => some ⟨fun key _ => Table.lookup key entries⟩
  | .array items => some ⟨fun _ place => items[place]?⟩
  | .tables elements => some ⟨fun _ place => elements[place]?.map (.table .header)⟩
  | .dateTime => some empty
  | _ => none

/-- The settings of a section of a document, which may be missing. -/
def find? (name : String) (document : Toml.Entries) : Option Section :=
  match Table.lookup name document with
  | none => some empty
  | some value => ofToml? value

/-- A setting with its default. -/
def setting {α : Type} (section_ : Section) (key : String) (place : Nat) (read : Toml → Option α)
    (default : α) : Option α :=
  match section_.given key place with
  | none => some default
  | some value => read value

end Section

/-! ## Sections -/

/-- The settings of the indices. -/
def indexerOf? (s : Section) : Option IndexerConfig := do
  let base : IndexerConfig := {}
  return {
    indexPrefix := ← s.setting "index_prefix" 0 textSetting base.indexPrefix
    recentIndexName := ← s.setting "recent_index_name" 1 textSetting base.recentIndexName
    recentStoreType := ← s.setting "recent_index_store_type" 2 textSetting base.recentStoreType
    shards := ← s.setting "shards" 3 (natSetting 32) base.shards
    replicas := ← s.setting "replicas" 4 (natSetting 32) base.replicas
    analyzer := ← s.setting "analyzer" 5 textSetting base.analyzer
    recentTtlMinutes :=
      ← s.setting "recent_index_ttl_minutes" 6 (natSetting 32) base.recentTtlMinutes
    mappingFile :=
      ← s.setting "mapping_file" 7 (fun v => (textSetting v).map some) base.mappingFile }

/-- The settings of retention. -/
def retentionOf? (s : Section) : Option RetentionConfig := do
  let base : RetentionConfig := {}
  return {
    maxIndices := ← s.setting "max_indices" 0 (natSetting 64) base.maxIndices
    intervalSecs := ← s.setting "interval_secs" 1 (natSetting 64) base.intervalSecs }

/-- The configuration of a document. -/
def ofDocument? (document : Toml.Entries) : Option Config := do
  let base : Config := {}
  let server ← Section.find? "server" document
  return {
    indexer := ← indexerOf? (← Section.find? "indexer" document)
    retention := ← retentionOf? (← Section.find? "retention" document)
    port := ← server.setting "port" 0 (natSetting 16) base.port }

/-! ## Files -/

/-- The configuration of a text, if it is accepted. -/
def ofText (text : String) : Except ConfigFault Config :=
  match (TomlText.parse? text.toList).bind ofDocument? with
  | none => .error .malformed
  | some config => config.validate.map fun () => config

/-- The configuration of a file, if it can be read and is accepted. -/
def ofFile (files : Files) (path : String) : Except ConfigFault Config :=
  match (files path).bind String.fromUTF8? with
  | none => .error .unreadable
  | some text => ofText text

end Config

end RollingIndex
