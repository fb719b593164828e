import HolderBond.Settings.Basic

/-!
# Sections as overrides

What a section of a settings file is read as, field by field.  The section is a table, or one of
the things that stand for a table; then each setting has what the section gives for it, or its
default where nothing is given, whatever the rest of the section is.
-/

set_option autoImplicit false

namespace HolderBond

/-! ## Values -/

/-- Tables and arrays that say nothing. -/
inductive Toml.Void : Toml → Prop
  | table (origin : TableOrigin) : Void (.table origin [])
  | array : Void (.array [])

theorem Toml.isVoid_iff (value : Toml) : Setting.isVoid value = true ↔ value.Void := by
  cases value with
  | table origin entries =>
      cases entries with
      | nil => exact iff_of_true rfl (.table origin)
      | cons => exact iff_of_false (by simp [Setting.isVoid]) (by rintro ⟨⟩)
  | array items =>
      cases items with
      | nil => exact iff_of_true rfl .array
      | cons => exact iff_of_false (by simp [Setting.isVoid]) (by rintro ⟨⟩)
  | _ => exact iff_of_false (by simp [Setting.isVoid]) (by rintro ⟨⟩)

namespace Setting

/-- What a value of the right type and range says a setting is. -/
inductive Means : {α : Type} → Setting α → Toml → α → Prop
  | text (s : String) : Means .text (.text s) s
  | flag (b : Bool) : Means .flag (.flag b) b
  | natural {α : Type} {u : Unsigned α} (a : α) : Means (.natural u) (.integer (u.toNat a)) a
  | name {α : Type} {c : Choice α} {s : String} {a : α} (named : c.ofName? s = some a) :
      Means (.choice c) (.text s) a
  | key {α : Type} {c : Choice α} {s : String} {a : α} {origin : TableOrigin} {value : Toml}
      (named : c.ofName? s = some a) (void : value.Void) :
      Means (.choice c) (.table origin [(s, value)]) a

/-- A setting is what is given for it, or its default where nothing is. -/
inductive Overridden {α : Type} (setting : Setting α) (default : α) : Option Toml → α → Prop
  | absent : Overridden setting default none default
  | given {value : Toml} {a : α} (means : setting.Means value a) :
      Overridden setting default (some value) a

variable {α : Type}

theorem ofToml?_of_means {setting : Setting α} {value : Toml} {a : α}
    (means : setting.Means value a) : setting.ofToml? value = some a := by
  cases means with
  | text => rfl
  | flag => rfl
  | natural a => simp [ofToml?, Unsigned.ofNat?_toNat]
  | name named => exact named
  | key named void => simpa [ofToml?, (Toml.isVoid_iff _).2 void] using named

theorem means_of_ofToml? {setting : Setting α} {value : Toml} {a : α}
    (read : setting.ofToml? value = some a) : setting.Means value a := by
  cases setting with
  | text =>
      cases value with
      | text s => exact Option.some.inj read ▸ .text s
      | _ => cases read
  | flag =>
      cases value with
      | flag b => exact Option.some.inj read ▸ .flag b
      | _ => cases read
  | natural u =>
      cases value with
      | integer n =>
          simp only [ofToml?] at read
          split at read
          · have written := u.toNat_of_ofNat? _ _ read
            have same : n = (u.toNat a : Int) := by omega
            exact same ▸ .natural a
          · cases read
      | _ => cases read
  | choice c =>
      cases value with
      | text s => exact .name read
      | table origin entries =>
          match entries with
          | [(s, value)] =>
              simp only [ofToml?] at read
              split at read
              · next void => exact .key read ((Toml.isVoid_iff _).1 void)
              · cases read
          | [] => cases read
          | _ :: _ :: _ => cases read
      | _ => cases read

theorem ofToml?_eq_some_iff (setting : Setting α) (value : Toml) (a : α) :
    setting.ofToml? value = some a ↔ setting.Means value a :=
  ⟨means_of_ofToml?, ofToml?_of_means⟩

theorem means_text_iff (value : Toml) (s : String) :
    Setting.text.Means value s ↔ value = .text s := by
  rw [← ofToml?_eq_some_iff]
  cases value <;> simp [ofToml?]

def had? (setting : Setting α) (default : α) : Option Toml → Option α
  | none => some default
  | some value => setting.ofToml? value

theorem had?_eq_some_iff (setting : Setting α) (default : α) (given : Option Toml) (a : α) :
    setting.had? default given = some a ↔ setting.Overridden default given a := by
  cases given with
  | none =>
      constructor
      · intro same
        exact Option.some.inj same ▸ .absent
      · rintro ⟨⟩
        rfl
  | some value =>
      rw [had?, ofToml?_eq_some_iff]
      exact ⟨.given, fun | .given means => means⟩

theorem exists_overridden_iff (setting : Setting α) (default : α) (given : Option Toml) :
    (∃ a, setting.Overridden default given a) ↔
      ∀ value, given = some value → ∃ a, setting.Means value a := by
  constructor
  · rintro ⟨a, overridden⟩ value rfl
    cases overridden with
    | given means => exact ⟨a, means⟩
  · intro valid
    cases given with
    | none => exact ⟨default, .absent⟩
    | some value =>
        obtain ⟨a, means⟩ := valid value rfl
        exact ⟨a, .given means⟩

end Setting

/-! ## Sections -/

namespace Settings

/-- What may stand where a section is expected; arrays only where sections may be written by
position. -/
inductive Admissible (positional : Bool) : Option Toml → Prop
  | absent : Admissible positional none
  | table (origin : TableOrigin) (entries : Toml.Entries) :
      Admissible positional (some (.table origin entries))
  | moment : Admissible positional (some .moment)
  | array (items : List Toml) (allowed : positional = true) :
      Admissible positional (some (.array items))

def given : Option Toml → Nat → String → Option Toml
  | some (.table _ entries), _, key => Toml.Entries.get? entries key
  | some (.array items), place, _ => items[place]?
  | _, _, _ => none

def Overridden (given : Nat → String → Option Toml) :
    {α : Type} → Settings α → Nat → α → Prop
  | _, .nil, _, () => True
  | _, .cons key default setting rest, place, (a, b) =>
      setting.Overridden default (given place key) a ∧ rest.Overridden given (place + 1) b

variable {α : Type}

theorem pair_eq_some_iff {β : Type} (x : Option α) (y : Option β) (a : α) (b : β) :
    (x.bind fun a => y.bind fun b => some (a, b)) = some (a, b) ↔ x = some a ∧ y = some b := by
  cases x <;> cases y <;> simp

theorem ofItems?_nil (settings : Settings α) : settings.ofItems? [] = some settings.defaults := by
  cases settings <;> rfl

theorem ofItems?_cons {β : Type} (key : String) (default : α) (setting : Setting α)
    (rest : Settings β) (items : List Toml) :
    (cons key default setting rest).ofItems? items =
      (setting.had? default items.head?).bind fun a =>
        (rest.ofItems? items.tail).bind fun b => some (a, b) := by
  cases items with
  | nil => simp [ofItems?, ofItems?_nil, Setting.had?]
  | cons => rfl

theorem ofEntries?_cons {β : Type} (key : String) (default : α) (setting : Setting α)
    (rest : Settings β) (entries : Toml.Entries) :
    (cons key default setting rest).ofEntries? entries =
      (setting.had? default (entries.get? key)).bind fun a =>
        (rest.ofEntries? entries).bind fun b => some (a, b) := by
  cases found : entries.get? key <;> simp [ofEntries?, found, Setting.had?]

theorem ofEntries?_eq_some_iff (settings : Settings α) (entries : Toml.Entries) (place : Nat)
    (values : α) :
    settings.ofEntries? entries = some values ↔
      settings.Overridden (fun _ => entries.get?) place values := by
  induction settings generalizing place with
  | nil => exact iff_of_true rfl trivial
  | cons key default setting rest ih =>
      rw [ofEntries?_cons, pair_eq_some_iff, Setting.had?_eq_some_iff, ih (place + 1)]
      rfl

theorem ofItems?_eq_some_iff (settings : Settings α) (items : List Toml) (place : Nat)
    (values : α) :
    settings.ofItems? (items.drop place) = some values ↔
      settings.Overridden (fun place _ => items[place]?) place values := by
  induction settings generalizing place with
  | nil => exact iff_of_true (by cases items.drop place <;> rfl) trivial
  | cons key default setting rest ih =>
      rw [ofItems?_cons, pair_eq_some_iff, Setting.had?_eq_some_iff, List.head?_drop,
        List.tail_drop, ih (place + 1)]
      rfl

theorem defaults_eq_some_iff (settings : Settings α) (place : Nat) (values : α) :
    some settings.defaults = some values ↔
      settings.Overridden (fun _ _ => none) place values := by
  rw [← ofItems?_nil, ← List.drop_nil (i := place)]
  exact ofItems?_eq_some_iff settings [] place values

/-- A section is read if it may stand where it does and what it gives has the right types and
ranges; then each setting is what is given or its default. -/
theorem ofSection?_eq_some_iff (settings : Settings α) (positional : Bool) (part : Option Toml)
    (values : α) :
    settings.ofSection? positional part = some values ↔
      Admissible positional part ∧ settings.Overridden (given part) 0 values := by
  match part with
  | none => exact (defaults_eq_some_iff settings 0 values).trans (and_iff_right .absent).symm
  | some .moment =>
      exact (defaults_eq_some_iff settings 0 values).trans (and_iff_right .moment).symm
  | some (.table origin entries) =>
      exact (ofEntries?_eq_some_iff settings entries 0 values).trans
        (and_iff_right (.table origin entries)).symm
  | some (.array items) =>
      cases positional with
      | true =>
          exact (ofItems?_eq_some_iff settings items 0 values).trans
            (and_iff_right (.array items rfl)).symm
      | false => exact iff_of_false nofun fun | ⟨.array _ allowed, _⟩ => nomatch allowed
  | some (.text _) | some (.integer _) | some .float | some (.flag _) | some (.tables _) =>
      exact iff_of_false nofun nofun

end Settings

end HolderBond
