import HolderBond.Command.Run
import HolderBond.Proofs.Bond.Link
import HolderBond.Proofs.Text.Edges

/-!
# All inputs that stand for a bond

A bond can be named by its file, given as its transport form, or given as a link.  Which of the
three an input is depends on the files and on a mark that occurs in links only.  A transport form
and a link always lead to one bond; the file leads to the same one if the bond is settled, for the
bond of a file was read once and that of a transport form was printed and read again.
-/

set_option autoImplicit false

namespace HolderBond

/-! ## Looking at files -/

namespace FileAccess

variable {σ : Type} (files : FileAccess (StateM σ)) (world : σ)

/-- A path leads to a file that holds a text, and looking at it changes nothing. -/
structure Holds (path text : String) : Prop where
  kind : (files.kind path).run world = (some .file, world)
  read : (files.read path).run world = (.ok (Text.utf8 text), world)

/-- A path does not lead to a file, and looking for one changes nothing. -/
def Misses (path : String) : Prop :=
  ∃ kind, kind ≠ some .file ∧ (files.kind path).run world = (kind, world)

end FileAccess

namespace Command

/-! ## The mark of a link -/

theorem contains_iff (word cs : List Char) : contains word cs = true ↔ word <:+: cs := by
  induction cs with
  | nil => rw [contains, List.isEmpty_iff, List.infix_nil]
  | cons c cs ih =>
      rw [contains, Bool.or_eq_true, ih, List.isPrefixOf_iff_prefix, List.infix_cons_iff]

def linkMark : List Char :=
  [':', '/', '/']

/-- A base that links can begin with: with the path of a link behind it, it is a link in order
and has the mark of one, but no query and no fragment. -/
structure Linkable (base : String) : Prop where
  accepted : ∃ url, Url.read (Bond.withoutSlashes base ++ Bond.linkPath) = .ok url
  marked : contains linkMark (Bond.withoutSlashes base ++ Bond.linkPath).toList = true
  plain : ∀ c ∈ (Bond.withoutSlashes base ++ Bond.linkPath).toList, c ≠ '?' ∧ c ≠ '#'

theorem not_contains_linkMark {cs : List Char} (absent : ':' ∉ cs) :
    contains linkMark cs = false := by
  rw [Bool.eq_false_iff, ne_eq, contains_iff]
  intro inside
  exact absent (inside.subset List.mem_cons_self)

theorem contains_append {word cs : List Char} (found : contains word cs = true)
    (more : List Char) : contains word (cs ++ more) = true := by
  rw [contains_iff] at found ⊢
  exact found.trans (List.prefix_append cs more).isInfix

theorem not_contains_encode {before after : List Char}
    (blankBefore : ∀ c ∈ before, Text.isBlank c = true)
    (blankAfter : ∀ c ∈ after, Text.isBlank c = true) (bond : Bond) :
    contains linkMark (before ++ bond.encode.toList ++ after) = false := by
  have symbols : ∀ c ∈ bond.encode.toList, c ≠ ':' :=
    Base64Url.encode_all (fun _ small => Base64Url.symbol_ne_colon small) _
  have visible : Text.isBlank ':' = false := by decide
  refine not_contains_linkMark fun member => ?_
  rcases List.mem_append.1 member with inFront | behind
  · rcases List.mem_append.1 inFront with blank | symbol
    · exact absurd (blankBefore _ blank) (by simp [visible])
    · exact symbols _ symbol rfl
  · exact absurd (blankAfter _ behind) (by simp [visible])

/-! ## The transport form of an input -/

theorem trim_encode {before after : String}
    (blankBefore : ∀ c ∈ before.toList, Text.isBlank c = true)
    (blankAfter : ∀ c ∈ after.toList, Text.isBlank c = true) (bond : Bond) :
    Text.trim (before ++ bond.encode ++ after) = bond.encode := by
  have solid : ∀ c ∈ bond.encode.toList, Text.isBlank c = false :=
    Base64Url.encode_all (fun _ => Base64Url.symbol_not_blank) _
  rw [Text.trim, String.toList_append, String.toList_append,
    Text.trimChars_blanks blankBefore blankAfter, Bond.trimChars_solid solid, String.ofList_toList]

theorem transportForm_encode {before after : String}
    (blankBefore : ∀ c ∈ before.toList, Text.isBlank c = true)
    (blankAfter : ∀ c ∈ after.toList, Text.isBlank c = true) (bond : Bond) :
    transportForm (before ++ bond.encode ++ after) = .ok bond.encode := by
  have noLink := not_contains_encode blankBefore blankAfter bond
  rw [← String.toList_append, ← String.toList_append, linkMark] at noLink
  rw [transportForm, noLink, if_neg Bool.false_ne_true, trim_encode blankBefore blankAfter]

theorem ofLink_of_linkable {base : String} (linkable : Linkable base) (bond : Bond) :
    Bond.ofLink (Bond.link base bond) = .ok bond.encode := by
  obtain ⟨url, accepted⟩ := linkable.accepted
  exact Bond.ofLink_link accepted linkable.plain bond

theorem transportForm_link {base : String} (linkable : Linkable base) (bond : Bond) :
    transportForm (Bond.link base bond) = .ok bond.encode := by
  have isLink : contains linkMark (Bond.link base bond).toList = true := by
    rw [Bond.link_eq, String.toList_ofList]
    exact contains_append linkable.marked _
  rw [linkMark] at isLink
  rw [transportForm, isLink, if_pos rfl, ofLink_of_linkable linkable]
  rfl

/-! ## Loading -/

variable {σ α β : Type} {files : FileAccess (StateM σ)} {world : σ}

theorem run_bind_ok {first : Action (StateM σ) α} {a : α} {after : σ}
    (done : first.run.run world = (.ok a, after)) (next : α → Action (StateM σ) β) :
    (first >>= next).run.run world = (next a).run.run after := by
  rw [ExceptT.run_bind, StateT.run_bind, done]
  rfl

theorem ofStep_run {ε : Type} {step : StateM σ (Except ε α)} {a : α} {after : σ}
    (done : step.run world = (.ok a, after)) (cause : ε → CommandError) :
    (Action.ofStep cause step).run.run world = (.ok a, after) := by
  rw [Action.ofStep, ExceptT.run_mk, StateT.run_bind, done]
  rfl

theorem ofResult_run {ε : Type} (result : Except ε α) (cause : ε → CommandError) :
    (Action.ofResult cause result : Action (StateM σ) α).run.run world =
      (result.mapError cause, world) :=
  rfl

theorem ofResult_run_ok {ε : Type} {result : Except ε α} {a : α} (done : result = .ok a)
    (cause : ε → CommandError) :
    (Action.ofResult cause result : Action (StateM σ) α).run.run world = (.ok a, world) := by
  rw [done]
  rfl

theorem readText_run {path text : String} (file : files.Holds world path text) :
    (files.readText path).run world = (.ok text, world) := by
  rw [FileAccess.readText, StateT.run_bind, file.read]
  dsimp only [bind]
  rw [Text.ofUtf8?_utf8]
  rfl

theorem lift_run {step : StateM σ α} {a : α} {after : σ} (done : step.run world = (a, after)) :
    (liftM step : Action (StateM σ) α).run.run world = (.ok a, after) := by
  have lifted : (liftM step : Action (StateM σ) α).run = Except.ok <$> step := rfl
  rw [lifted, StateT.run_map, done]
  rfl

theorem loadBond_file {path text : String} {bond : Bond} (file : files.Holds world path text)
    (read : Bond.shape.read text = .ok bond) :
    (loadBond files path).run.run world = (.ok bond, world) := by
  rw [loadBond, run_bind_ok (lift_run file.kind), if_pos rfl, readDocument,
    run_bind_ok (ofStep_run (readText_run file) _), ofResult_run_ok read]

theorem loadBond_form {input encoded : String} (noFile : files.Misses world input)
    (form : transportForm input = .ok encoded) :
    (loadBond files input).run.run world = ((Bond.decode encoded).mapError .notABond, world) := by
  obtain ⟨kind, other, looked⟩ := noFile
  rw [loadBond, run_bind_ok (lift_run looked), if_neg other,
    run_bind_ok (ofResult_run_ok form _), ofResult_run]

/-- What can be handed over in place of a file: the transport form, with any blanks around it, and
every link. -/
inductive StandsFor (bond : Bond) : String → Prop where
  | form {before after : String} (blankBefore : ∀ c ∈ before.toList, Text.isBlank c = true)
      (blankAfter : ∀ c ∈ after.toList, Text.isBlank c = true) :
      StandsFor bond (before ++ bond.encode ++ after)
  | link {base : String} (linkable : Linkable base) : StandsFor bond (Bond.link base bond)

theorem standsFor_encode (bond : Bond) : StandsFor bond bond.encode := by
  have noBlanks : ∀ c ∈ "".toList, Text.isBlank c = true := by simp
  have bare : StandsFor bond ("" ++ bond.encode ++ "") := .form noBlanks noBlanks
  rwa [String.empty_append, String.append_empty] at bare

theorem StandsFor.transportForm {bond : Bond} {input : String} (stands : StandsFor bond input) :
    Command.transportForm input = .ok bond.encode := by
  cases stands with
  | form blankBefore blankAfter => exact transportForm_encode blankBefore blankAfter bond
  | link linkable => exact transportForm_link linkable bond

/-- The file of a bond leads to the bond.  What is taken out of a link is the transport form, and
a transport form is never taken for a link, so the transport form, with or without blanks around
it, and every link lead to one and the same bond, which is the bond of the file if that bond is
settled. -/
theorem inputs_agree {text : String} {bond : Bond} (read : Bond.shape.read text = .ok bond) :
    (∀ path, files.Holds world path text →
      (loadBond files path).run.run world = (.ok bond, world)) ∧
    contains linkMark bond.encode.toList = false ∧
    (∀ base, Linkable base → Bond.ofLink (Bond.link base bond) = .ok bond.encode) ∧
    ∀ input, StandsFor bond input → files.Misses world input →
      (loadBond files input).run.run world =
          ((Bond.decode bond.encode).mapError .notABond, world) ∧
        (bond.Settled → (loadBond files input).run.run world = (.ok bond, world)) := by
  have noBlanks : ∀ c ∈ ([] : List Char), Text.isBlank c = true := by simp
  refine ⟨fun path file => loadBond_file file read, ?_,
    fun base linkable => ofLink_of_linkable linkable bond, fun input stands noFile => ?_⟩
  · have unmarked := not_contains_encode noBlanks noBlanks bond
    rwa [List.nil_append, List.append_nil] at unmarked
  · have loaded := loadBond_form noFile stands.transportForm
    refine ⟨loaded, fun settled => ?_⟩
    rw [loaded, Bond.decode_encode (Bond.portable_of_readGlyphs read) settled]
    rfl

end Command

namespace FileAccess

def readOnly : FileFault :=
  .other "Read-only file system (os error 30)"

def lone (path text : String) : FileAccess (StateM Unit) where
  kind other := return if other = path then some .file else none
  read other := return if other = path then .ok (Text.utf8 text) else .error .notFound
  write _ _ := return .error readOnly
  rename _ _ := return .error readOnly
  remove _ := return .error readOnly
  makeFolders _ := return .error readOnly

theorem lone_holds (path text : String) : (lone path text).Holds () path text where
  kind := by
    simp only [lone, if_pos]
    rfl
  read := by
    simp only [lone, if_pos]
    rfl

theorem lone_misses {path other : String} (different : other ≠ path) (text : String) :
    (lone path text).Misses () other := by
  refine ⟨none, by simp, ?_⟩
  simp only [lone, if_neg different]
  rfl

theorem lone_misses_of_mem {path other : String} {c : Char} (inside : c ∈ other.toList)
    (outside : c ∉ path.toList) (text : String) : (lone path text).Misses () other := by
  refine lone_misses ?_ text
  rintro rfl
  exact outside inside

end FileAccess

namespace Command

theorem linkable_sample : Linkable "https://x.org/" where
  accepted := ⟨_, (Url.read_eq_ok_iff _ _).2 ⟨_, _, rfl, by decide +kernel, rfl⟩⟩
  marked := by decide
  plain := Text.forall_mem_of_all (by decide)

theorem lone_misses_encode (bond : Bond) (text : String) :
    (FileAccess.lone "bond.json" text).Misses () bond.encode := by
  have symbols : ∀ c ∈ bond.encode.toList, c ≠ '.' := Base64Url.encode_all (by decide) _
  refine FileAccess.lone_misses (fun same => ?_) text
  rw [same] at symbols
  exact symbols '.' (by decide) rfl

theorem inputs_agree_sample :
    let files := FileAccess.lone "bond.json" (Bond.shape.render Bond.sample)
    Bond.ofLink (Bond.link "https://x.org/" Bond.sample) = .ok Bond.sample.encode ∧
    ∀ input ∈ ["bond.json", Bond.sample.encode, " " ++ Bond.sample.encode ++ "\n",
        Bond.link "https://x.org/" Bond.sample],
      (loadBond files input).run.run () = (.ok Bond.sample, ()) := by
  intro files
  have read : Bond.shape.read (Bond.shape.render Bond.sample) = .ok Bond.sample :=
    Bond.read_render_of_reread? (Bond.sample_portable.mono (by decide)) Bond.sample_settled
  have padded : StandsFor Bond.sample (" " ++ Bond.sample.encode ++ "\n") :=
    .form (Text.forall_mem_of_all (by decide)) (Text.forall_mem_of_all (by decide))
  have blankInside : ∀ s : String, ' ' ∈ (" " ++ s ++ "\n").toList := by simp
  have paddedMisses : files.Misses () (" " ++ Bond.sample.encode ++ "\n") :=
    FileAccess.lone_misses_of_mem (blankInside _) (by decide) _
  have linkMisses : files.Misses () (Bond.link "https://x.org/" Bond.sample) :=
    FileAccess.lone_misses_of_mem (Bond.mark_mem_link _ _) (by decide) _
  obtain ⟨byFile, -, found, others⟩ := @inputs_agree _ files () _ _ read
  refine ⟨found _ linkable_sample, ?_⟩
  simp only [List.forall_mem_cons]
  refine ⟨byFile _ (FileAccess.lone_holds _ _), ?_, ?_, ?_, by simp⟩
  · exact (others _ (standsFor_encode _) (lone_misses_encode _ _)).2 Bond.sample_settled
  · exact (others _ padded paddedMisses).2 Bond.sample_settled
  · exact (others _ (.link linkable_sample) linkMisses).2 Bond.sample_settled

/-- A file and the transport form of the bond in it that lead to different bonds. -/
theorem inputs_disagree :
    let files := FileAccess.lone "bond.json" (Bond.shape.render (.measured Bond.lowTwin))
    let bond := Bond.measured Bond.highTwin
    Bond.shape.read (Bond.shape.render (.measured Bond.lowTwin)) = .ok bond ∧
      (loadBond files "bond.json").run.run () = (.ok bond, ()) ∧
      files.Misses () bond.encode ∧
      (loadBond files bond.encode).run.run () = (.ok (.measured Bond.lowTwin), ()) ∧
      bond ≠ .measured Bond.lowTwin := by
  intro files bond
  have read := Bond.read_render_of_reread? ((Bond.measured_portable _).mono (by decide))
    Bond.reread?_lowTwin
  have again := Bond.read_render_of_reread? ((Bond.measured_portable _).mono (by decide))
    Bond.reread?_highTwin
  have noFile : files.Misses () bond.encode := lone_misses_encode _ _
  refine ⟨read, loadBond_file (FileAccess.lone_holds _ _) read, noFile, ?_, Bond.twins_differ⟩
  rw [loadBond_form noFile (standsFor_encode bond).transportForm, Bond.decode_encode_eq, again]
  rfl

end Command

end HolderBond
