import HolderBond.Proofs.Settings.Overrides
import HolderBond.Settings.Config

/-!
# Configurations as overrides

A configuration file is a list of exceptions to the defaults.  It loads if each of the five
sections may stand where it does, each field that it gives has its type and range, and the
separator is not empty; the fields are then those given, and the others the defaults.  Nothing
else in the file counts.
-/

set_option autoImplicit false

namespace HolderBond

namespace Config

def parts : List (String × Bool) :=
  [("binding", true), ("verification", true), ("storage", false), ("share", true),
    ("logging", true)]

/-- A field: its section, its place and its key there, what it may be and is by default, and which
part of a configuration it is. -/
structure Field where
  {α : Type}
  part : String
  place : Nat
  key : String
  setting : Setting α
  default : α
  value : Config → α

def fields : List Field :=
  [⟨"binding", 0, "version", .natural .word, 1, fun c => c.binding.version⟩,
    ⟨"binding", 1, "domain_separator", .text, "zkpf-holder-binding-v1",
      fun c => c.binding.separator⟩,
    ⟨"binding", 2, "hash", .choice HashAlgorithm.choices, .blake3, fun c => c.binding.hash⟩,
    ⟨"binding", 3, "epoch_bound", .flag, true, fun c => c.binding.epochBound⟩,
    ⟨"verification", 0, "max_epoch_age_secs", .natural .long, 2592000,
      fun c => c.verification.maxEpochAge⟩,
    ⟨"storage", 0, "data_dir", .text, "./data", fun c => c.storage.folder⟩,
    ⟨"storage", 1, "key", .text, "zkpf-bound-proofs", fun c => c.storage.cache.key⟩,
    ⟨"storage", 2, "max_entries", .natural .count, 50, fun c => c.storage.cache.maxEntries⟩,
    ⟨"share", 0, "base_url", .text, "http://localhost:3000", fun c => c.share.baseUrl⟩,
    ⟨"logging", 0, "level", .text, "warn", fun c => c.logging.level⟩,
    ⟨"logging", 1, "format", .text, "text", fun c => c.logging.format⟩]

def Field.given (field : Field) (entries : Toml.Entries) : Option Toml :=
  Settings.given (entries.get? field.part) field.place field.key

def Formed (entries : Toml.Entries) : Prop :=
  ∀ part ∈ parts, Settings.Admissible part.2 (entries.get? part.1)

/-- Each field is what is given for it, or its default where nothing is. -/
def Overrides (entries : Toml.Entries) (config : Config) : Prop :=
  ∀ field ∈ fields,
    field.setting.Overridden field.default (field.given entries) (field.value config)

def Typed (entries : Toml.Entries) : Prop :=
  ∀ field ∈ fields, ∀ value, field.given entries = some value → ∃ a, field.setting.Means value a

section Sections

variable {α β : Type}

theorem sectionOf?_eq_some_iff (entries : Toml.Entries) (name : String) (settings : Settings α)
    (c : Correspondence α β) (positional : Bool) (part : β) :
    sectionOf? entries name settings c positional = some part ↔
      Settings.Admissible positional (entries.get? name) ∧
        settings.Overridden (Settings.given (entries.get? name)) 0 (c.view part) := by
  rw [sectionOf?, Option.map_eq_some_iff, ← Settings.ofSection?_eq_some_iff]
  constructor
  · rintro ⟨values, read, rfl⟩
    rwa [c.view_make]
  · intro read
    exact ⟨c.view part, read, c.make_view part⟩

end Sections

theorem ofEntries?_eq_some_iff (entries : Toml.Entries) (config : Config) :
    ofEntries? entries = some config ↔ Formed entries ∧ Overrides entries config := by
  obtain ⟨binding, verification, storage, share, logging⟩ := config
  have sections : ofEntries? entries = some ⟨binding, verification, storage, share, logging⟩ ↔
      sectionOf? entries "binding" BindingParams.settings BindingParams.correspondence true =
          some binding ∧
        sectionOf? entries "verification" VerificationSettings.settings
            VerificationSettings.correspondence true = some verification ∧
          sectionOf? entries "storage" StorageSettings.settings StorageSettings.correspondence
              false = some storage ∧
            sectionOf? entries "share" ShareSettings.settings ShareSettings.correspondence true =
                some share ∧
              sectionOf? entries "logging" LogSettings.settings LogSettings.correspondence true =
                some logging := by
    simp only [ofEntries?, Option.bind_eq_bind, Option.bind_eq_some_iff, Option.pure_def,
      Option.some.injEq, Config.mk.injEq]
    constructor
    · rintro ⟨_, b, _, v, _, s, _, u, _, l, rfl, rfl, rfl, rfl, rfl⟩
      exact ⟨b, v, s, u, l⟩
    · rintro ⟨b, v, s, u, l⟩
      exact ⟨_, b, _, v, _, s, _, u, _, l, rfl, rfl, rfl, rfl, rfl⟩
  simp only [sections, sectionOf?_eq_some_iff, Formed, Overrides, parts, fields,
    List.forall_mem_cons, Field.given]
  constructor
  · rintro ⟨⟨binding, version, separator, hash, epochBound, -⟩, ⟨verification, age, -⟩,
      ⟨storage, folder, key, most, -⟩, ⟨share, url, -⟩, logging, level, format, -⟩
    exact ⟨⟨binding, verification, storage, share, logging, List.forall_mem_nil _⟩,
      version, separator, hash, epochBound, age, folder, key, most, url, level, format,
      List.forall_mem_nil _⟩
  · rintro ⟨⟨binding, verification, storage, share, logging, -⟩, version, separator, hash,
      epochBound, age, folder, key, most, url, level, format, -⟩
    exact ⟨⟨binding, version, separator, hash, epochBound, trivial⟩,
      ⟨verification, age, trivial⟩, ⟨storage, folder, key, most, trivial⟩,
      ⟨share, url, trivial⟩, logging, level, format, trivial⟩

/-- Fields of the right types and ranges make a configuration. -/
theorem exists_overrides_iff (entries : Toml.Entries) :
    (∃ config, Overrides entries config) ↔ Typed entries := by
  constructor
  · rintro ⟨config, overrides⟩ field known
    exact (Setting.exists_overridden_iff _ field.default _).1 ⟨_, overrides field known⟩
  · intro typed
    have had : ∀ field ∈ fields,
        ∃ a, field.setting.Overridden field.default (field.given entries) a :=
      fun field known => (Setting.exists_overridden_iff _ _ _).2 (typed field known)
    simp only [fields, List.forall_mem_cons] at had
    obtain ⟨⟨version, v⟩, ⟨separator, s⟩, ⟨hash, h⟩, ⟨epochBound, e⟩, ⟨age, a⟩, ⟨folder, f⟩,
      ⟨key, k⟩, ⟨most, m⟩, ⟨url, u⟩, ⟨level, l⟩, ⟨format, t⟩, -⟩ := had
    refine ⟨⟨⟨version, separator, hash, epochBound⟩, ⟨age⟩, ⟨folder, ⟨key, most⟩⟩, ⟨url⟩,
      ⟨level, format⟩⟩, ?_⟩
    simp only [Overrides, fields, List.forall_mem_cons]
    exact ⟨v, s, h, e, a, f, k, m, u, l, t, List.forall_mem_nil _⟩

def Emptied (entries : Toml.Entries) : Prop :=
  Settings.given (entries.get? "binding") 1 "domain_separator" = some (.text "")

theorem separator_eq_empty_iff {entries : Toml.Entries} {config : Config}
    (overrides : Overrides entries config) :
    config.binding.separator = "" ↔ Emptied entries := by
  have separator : Setting.text.Overridden "zkpf-holder-binding-v1"
      (Settings.given (entries.get? "binding") 1 "domain_separator") config.binding.separator :=
    overrides _ (List.mem_cons_of_mem _ List.mem_cons_self)
  rw [Emptied]
  generalize config.binding.separator = s at separator
  generalize Settings.given _ _ _ = given at separator
  cases separator with
  | absent => exact iff_of_false (by decide) nofun
  | given means =>
      rw [(Setting.means_text_iff _ s).1 means]
      simp

/-! ## Files -/

section Texts

variable {text other : String} {entries others : Toml.Entries}

theorem ofText_eq (parsed : Toml.read? text = some entries) :
    ofText text =
      match ofEntries? entries with
      | none => .error .badFile
      | some config =>
          if config.binding.separator = "" then .error (.value BindingParams.emptySeparator)
          else .ok config := by
  rw [ofText, parsed, Option.bind_some]
  cases ofEntries? entries with
  | none => rfl
  | some config =>
      by_cases empty : config.binding.separator = "" <;> simp [BindingParams.validate, empty]

theorem ofText_eq_ok_iff (parsed : Toml.read? text = some entries) (config : Config) :
    ofText text = .ok config ↔
      Formed entries ∧ Overrides entries config ∧ config.binding.separator ≠ "" := by
  rw [← and_assoc, ← ofEntries?_eq_some_iff, ofText_eq parsed]
  cases ofEntries? entries with
  | none => simp
  | some loaded =>
      by_cases empty : loaded.binding.separator = ""
      · simp only [empty, if_true]
        exact iff_of_false nofun fun ⟨same, other⟩ => other (Option.some.inj same ▸ empty)
      · simp only [empty, if_false, Except.ok.injEq, Option.some.injEq]
        exact ⟨fun same => ⟨same, same ▸ empty⟩, And.left⟩

structure Agree (entries others : Toml.Entries) : Prop where
  formed : Formed entries ↔ Formed others
  given : ∀ field ∈ fields, field.given entries = field.given others

theorem ofText_congr (agree : Agree entries others) (parsed : Toml.read? text = some entries)
    (parsedOther : Toml.read? other = some others) : ofText text = ofText other := by
  have same : ofEntries? entries = ofEntries? others := by
    ext config
    rw [ofEntries?_eq_some_iff, ofEntries?_eq_some_iff, agree.formed]
    refine and_congr_right fun _ => forall₂_congr fun field known => ?_
    rw [agree.given field known]
  rw [ofText_eq parsed, ofText_eq parsedOther, same]

/-- An empty section says as much as an absent one. -/
theorem agree_of_empty {name : String} {origin : TableOrigin} (absent : entries.get? name = none)
    (empty : others.get? name = some (.table origin []))
    (same : ∀ part, part ≠ name → others.get? part = entries.get? part) :
    Agree entries others := by
  constructor
  · refine forall₂_congr fun part _ => ?_
    by_cases here : part.1 = name
    · rw [here, absent, empty]
      exact iff_of_true .absent (.table origin [])
    · rw [same part.1 here]
  · intro field _
    by_cases here : field.part = name
    · rw [Field.given, Field.given, here, absent, empty]
      rfl
    · rw [Field.given, Field.given, same field.part here]

/-- A file loads unless something stands where it may not, a field has a wrong type or range, or
the separator is emptied. -/
theorem exists_ofText_eq_ok_iff (parsed : Toml.read? text = some entries) :
    (∃ config, ofText text = .ok config) ↔
      Formed entries ∧ Typed entries ∧ ¬Emptied entries := by
  simp only [ofText_eq_ok_iff parsed, ← exists_overrides_iff]
  constructor
  · rintro ⟨config, formed, overrides, separator⟩
    exact ⟨formed, ⟨config, overrides⟩,
      fun emptied => separator ((separator_eq_empty_iff overrides).2 emptied)⟩
  · rintro ⟨formed, ⟨config, overrides⟩, kept⟩
    exact ⟨config, formed, overrides,
      fun empty => kept ((separator_eq_empty_iff overrides).1 empty)⟩

end Texts

theorem read?_empty : Toml.read? "" = some [] := by
  have found : (Toml.read? "").map List.isEmpty = some true := by decide +kernel
  obtain ⟨entries, read, empty⟩ := Option.map_eq_some_iff.1 found
  rwa [List.isEmpty_iff.1 empty] at read

theorem ofText_empty : ofText "" = .ok .standard := by
  rw [ofText_eq read?_empty]
  rfl

section Loading

variable {σ : Type} {files : FileAccess (StateM σ)} {path : String} {before found after : σ}

/-- A file that is not there loads as the empty one. -/
theorem load_of_missing (missing : (files.kind path).run before = (none, after)) :
    (load files path).run before = (ofText "", after) := by
  rw [ofText_empty, load, StateT.run_bind, missing]
  rfl

theorem load_of_there {kind : FileKind} {text : String}
    (there : (files.kind path).run before = (some kind, found))
    (read : (files.readText path).run found = (.ok text, after)) :
    (load files path).run before = (ofText text, after) := by
  rw [load, StateT.run_bind, there]
  change (files.readText path >>= _).run found = _
  rw [StateT.run_bind, read]
  rfl

end Loading

/-- A file is a list of exceptions to the defaults.  It loads if each known section may stand where
it does, each known field that it gives has its type and range, and the separator is not emptied;
then each field is what is given for it, or its default, whatever else the file says.  An empty
section says as much as an absent one, and an empty file as much as a missing one. -/
theorem file_overrides_defaults {text : String} {entries : Toml.Entries}
    (parsed : Toml.read? text = some entries) :
    ((∃ config, ofText text = .ok config) ↔ Formed entries ∧ Typed entries ∧ ¬Emptied entries) ∧
      (∀ config, ofText text = .ok config ↔
        Formed entries ∧ Overrides entries config ∧ config.binding.separator ≠ "") ∧
      (∀ other others, Toml.read? other = some others → Agree entries others →
        ofText text = ofText other) ∧
      (∀ name origin other others, Toml.read? other = some others →
        entries.get? name = none → others.get? name = some (.table origin []) →
        (∀ part, part ≠ name → others.get? part = entries.get? part) →
        ofText text = ofText other) ∧
      ∀ (σ : Type) (files : FileAccess (StateM σ)) path (before after : σ),
        ((files.kind path).run before = (none, after) →
          (load files path).run before = (ofText "", after) ∧ Toml.read? "" = some []) ∧
        ∀ kind (found : σ), (files.kind path).run before = (some kind, found) →
          (files.readText path).run found = (.ok text, after) →
          (load files path).run before = (ofText text, after) := by
  refine ⟨exists_ofText_eq_ok_iff parsed, ofText_eq_ok_iff parsed, ?_, ?_, ?_⟩
  · exact fun other others parsedOther agree => ofText_congr agree parsed parsedOther
  · exact fun name origin other others parsedOther absent empty same =>
      ofText_congr (agree_of_empty absent empty same) parsed parsedOther
  · exact fun σ files path before after =>
      ⟨fun missing => ⟨load_of_missing missing, read?_empty⟩, fun kind found => load_of_there⟩

theorem ofText_of_toOption {text : String} {config : Config}
    (loaded : (ofText text).toOption = some config) : ofText text = .ok config := by
  cases outcome : ofText text with
  | error => rw [outcome] at loaded; cases loaded
  | ok found => rw [outcome] at loaded; exact congrArg _ (Option.some.inj loaded)

def exceptionSample : String :=
  "[binding]\nhash = \"sha256\"\ncolour = 7\n[storage]\n"

theorem file_overrides_defaults_sample :
    ∃ entries, Toml.read? exceptionSample = some entries ∧ Formed entries ∧
      Overrides entries { standard with binding.hash := .sha256 } := by
  have known : (Toml.read? exceptionSample).isSome = true := by decide +kernel
  have loaded : ofText exceptionSample = .ok { standard with binding.hash := .sha256 } :=
    ofText_of_toOption (by decide +kernel)
  obtain ⟨entries, parsed⟩ := Option.isSome_iff_exists.1 known
  obtain ⟨formed, overrides, -⟩ := ((file_overrides_defaults parsed).2.1 _).1 loaded
  exact ⟨entries, parsed, formed, overrides⟩

/-- A file with a section that is a list of values. -/
def listedSample : String :=
  "binding = [2, \"dom\"]"

/-- Such a file loads, although the section is no table. -/
theorem listed_section_loads :
    ∃ entries config, Toml.read? listedSample = some entries ∧ ofText listedSample = .ok config ∧
      ∃ part, entries.get? "binding" = some part ∧ ∀ origin inner, part ≠ .table origin inner := by
  have listed : ((Toml.read? listedSample).bind fun entries => entries.get? "binding").map
      (fun part => match part with
        | .array _ => true
        | _ => false) = some true := by decide +kernel
  have loaded : ofText listedSample =
      .ok { standard with binding.version := 2, binding.separator := "dom" } :=
    ofText_of_toOption (by decide +kernel)
  obtain ⟨part, found, isList⟩ := Option.map_eq_some_iff.1 listed
  obtain ⟨entries, parsed, given⟩ := Option.bind_eq_some_iff.1 found
  refine ⟨entries, _, parsed, loaded, part, given, ?_⟩
  rintro origin inner rfl
  cases isList

end Config

end HolderBond
